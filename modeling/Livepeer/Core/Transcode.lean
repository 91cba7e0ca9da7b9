import Livepeer.Go

/-! The transcoders of `core/transcoder.go`: the options built for ffmpeg, the conversion
of ffmpeg's results into a `TranscodeData`, and the deferred `recoverFromPanic` that turns
a panic of the body into an error. The ffmpeg layer and the file system are parameters. -/
namespace Livepeer.Core
open Livepeer.Go

inductive Acceleration
  | software
  | nvidia
deriving DecidableEq, Repr

structure VideoProfile where
  name : String
deriving DecidableEq, Repr

structure SceneClassificationProfile where
  sampleRate : Nat
  modelPath : String
  input : String
  output : String
deriving DecidableEq, Repr

inductive DetectorType
  | sceneClassification
  | other (code : Nat)
deriving DecidableEq, Repr

/-- A value of the interface `ffmpeg.DetectorProfile`: a `*SceneClassificationProfile`, a
nil one (whose `Type()` still answers), another implementation reporting some type, or
the nil interface. -/
inductive DetectorProfile
  | sceneClassification (p : SceneClassificationProfile)
  | nilSceneClassification
  | other (type : DetectorType)
  | nil
deriving DecidableEq, Repr

structure TranscodeOptionsIn where
  fname : String
  accel : Acceleration
  device : String
deriving DecidableEq, Repr

structure TranscodeOptions where
  oname : String := ""
  profile : VideoProfile := ⟨""⟩
  accel : Acceleration := .software
  audioEncoder : String := ""
  calcSign : Bool := false
  detector : Option SceneClassificationProfile := none
deriving DecidableEq, Repr

structure DetectData where
  scores : List (Nat × UInt64)
deriving DecidableEq, Repr

structure MediaInfo where
  pixels : Int
  detectData : DetectData := ⟨[]⟩
deriving DecidableEq, Repr

structure TranscodeResults where
  decoded : MediaInfo
  encoded : List MediaInfo
deriving DecidableEq, Repr

structure TranscodedSegmentData where
  data : Bytes
  pixels : Int
  phash : Option Bytes
deriving DecidableEq, Repr

structure TranscodeData where
  segments : List TranscodedSegmentData
  pixels : Int
  detections : List DetectData
deriving DecidableEq, Repr

structure SegTranscodingMetadata where
  fname : String
  profiles : List VideoProfile := []
  calcPerceptualHash : Bool := false
  detectorEnabled : Bool := false
  detectorProfiles : List DetectorProfile := []
deriving DecidableEq, Repr

/-- What a transcode call reads besides its arguments: the answers of `common.RandName()`
in the order the call asks for them, lpms' `ffmpeg.DSceneAdultSoccer`, and the package
variable `WorkDir`. -/
structure Env where
  randName : Nat → String
  adultSoccer : SceneClassificationProfile
  workDir : String

def outName (workDir name : String) : String := workDir ++ "/out_" ++ name ++ ".tempfile"

def profilesToTranscodeOptions (randName : Nat → String) (workDir : String) (accel : Acceleration)
    (profiles : List VideoProfile) (calcPHash : Bool) : List TranscodeOptions :=
  profiles.mapIdx fun i profile =>
    { oname := outName workDir (randName i), profile := profile, accel := accel,
      audioEncoder := "copy", calcSign := calcPHash }

def typeAssertionFailed : PanicValue :=
  .error (.runtime "interface conversion: ffmpeg.DetectorProfile is not *ffmpeg.SceneClassificationProfile")

def detectorToTranscodeOptions (adultSoccer : SceneClassificationProfile) (accel : Acceleration) :
    DetectorProfile → Except PanicValue TranscodeOptions
  | .sceneClassification p =>
    .ok { detector := some {p with modelPath := adultSoccer.modelPath, input := adultSoccer.input,
                                   output := adultSoccer.output}
          accel := accel }
  | .nilSceneClassification | .nil => .error nilDereference
  | .other .sceneClassification => .error typeAssertionFailed
  | .other (.other _) => .ok {}

def detectorsToTranscodeOptions (adultSoccer : SceneClassificationProfile) (accel : Acceleration)
    (profiles : List DetectorProfile) : Except PanicValue (List TranscodeOptions) :=
  profiles.mapM (detectorToTranscodeOptions adultSoccer accel)

def transcodeOptions (env : Env) (workDir : String) (accel : Acceleration) (md : SegTranscodingMetadata) :
    Except PanicValue (List TranscodeOptions) :=
  let opts := profilesToTranscodeOptions env.randName workDir accel md.profiles md.calcPerceptualHash
  if md.detectorEnabled then (detectorsToTranscodeOptions env.adultSoccer accel md.detectorProfiles).map (opts ++ ·)
  else .ok opts

structure Collected where
  segments : List TranscodedSegmentData := []
  detections : List DetectData := []
deriving DecidableEq, Repr

/-- The loop of `resToTranscodeData` over the options and the encoded results. A
rendition's output is read, and its signature file when one was asked for; both are then
removed. A detector's result is kept as it is. -/
def readOutputs (fs : FileSystem) (acc : Collected) :
    List (TranscodeOptions × MediaInfo) → Except GoError Collected × FileSystem
  | [] => (.ok acc,fs)
  | (opt,encoded) :: rest =>
    match opt.detector with
    | some _ => readOutputs fs {acc with detections := acc.detections ++ [encoded.detectData]} rest
    | none =>
      match fs.readFile opt.oname with
      | .error err => (.error err,fs)
      | .ok o =>
        if opt.calcSign then
          match fs.readFile (opt.oname ++ ".bin") with
          | .error err => (.error err,fs)
          | .ok s =>
            readOutputs ((fs.remove (opt.oname ++ ".bin")).remove opt.oname)
              {acc with segments := acc.segments ++ [⟨o,encoded.pixels,some s⟩]} rest
        else
          readOutputs (fs.remove opt.oname) {acc with segments := acc.segments ++ [⟨o,encoded.pixels,none⟩]} rest

def lengthsDiffer : GoError := .errorString "lengths of results and options different"

def resToTranscodeData (res : Option TranscodeResults) (opts : List TranscodeOptions) (fs : FileSystem) :
    Except PanicValue (Option TranscodeData × Option GoError) × FileSystem :=
  match res with
  | none => (.error nilDereference,fs)
  | some res =>
    if res.encoded.length ≠ opts.length then (.ok (none,some lengthsDiffer),fs)
    else match readOutputs fs {} (opts.zip res.encoded) with
      | (.error err,fs) => (.ok (none,some err),fs)
      | (.ok acc,fs) => (.ok (some ⟨acc.segments,res.decoded.pixels,acc.detections⟩,none),fs)

/-- The ffmpeg layer: `ffmpeg.Transcode3` for the software transcoder, the session's
`Transcode` for the Nvidia one. It returns a result, possibly nil, and an error, or it
panics; it leaves behind the file system it wrote its outputs to. -/
abbrev FfmpegCall := TranscodeOptionsIn → List TranscodeOptions → FileSystem →
  Except PanicValue (Option TranscodeResults × Option GoError) × FileSystem

def transcodeBody (env : Env) (workDir : String) (input : TranscodeOptionsIn) (ffmpeg : FfmpegCall)
    (md : SegTranscodingMetadata) (fs : FileSystem) :
    Except PanicValue (Option TranscodeData × Option GoError) × FileSystem :=
  match transcodeOptions env workDir input.accel md with
  | .error r => (.error r,fs)
  | .ok opts =>
    match ffmpeg input opts fs with
    | (.error r,fs) => (.error r,fs)
    | (.ok (_,some err),fs) => (.ok (none,some err),fs)
    | (.ok (res,none),fs) => resToTranscodeData res opts fs

def unrecoverableFailure : GoError := .errorString "unrecoverable transcoding failure"

def recoverFromPanic (r : PanicValue) (retErr : Option GoError) : Option GoError :=
  match r with
  | .nil => retErr
  | .error err => some (.unrecoverable err)
  | .other _ => some (.unrecoverable unrecoverableFailure)

/-- The named results after the deferred call. Under Go 1.17 `recover()` returns the value
the body panicked with, which is nil for `panic(nil)`, and nil when the body returned; the
named results are still nil when the body panics. -/
def recovered : Except PanicValue (Option TranscodeData × Option GoError) → Option TranscodeData × Option GoError
  | .ok (td,retErr) => (td,recoverFromPanic .nil retErr)
  | .error r => (none,recoverFromPanic r none)

def transcodeWith (env : Env) (workDir : String) (input : TranscodeOptionsIn) (ffmpeg : FfmpegCall)
    (md : SegTranscodingMetadata) (fs : FileSystem) : (Option TranscodeData × Option GoError) × FileSystem :=
  let run := transcodeBody env workDir input ffmpeg md fs
  (recovered run.1,run.2)

structure LocalTranscoder where
  workDir : String

def LocalTranscoder.input (md : SegTranscodingMetadata) : TranscodeOptionsIn := ⟨md.fname,.software,""⟩

def LocalTranscoder.transcode (lt : LocalTranscoder) (env : Env) (transcode3 : FfmpegCall)
    (md : SegTranscodingMetadata) (fs : FileSystem) : (Option TranscodeData × Option GoError) × FileSystem :=
  transcodeWith env lt.workDir (LocalTranscoder.input md) transcode3 md fs

structure NvidiaTranscoder where
  device : String
  session : FfmpegCall

def NvidiaTranscoder.input (nv : NvidiaTranscoder) (md : SegTranscodingMetadata) : TranscodeOptionsIn :=
  ⟨md.fname,.nvidia,nv.device⟩

def NvidiaTranscoder.transcode (nv : NvidiaTranscoder) (env : Env) (md : SegTranscodingMetadata)
    (fs : FileSystem) : (Option TranscodeData × Option GoError) × FileSystem :=
  transcodeWith env env.workDir (nv.input md) nv.session md fs

def Settled (out : Option TranscodeData × Option GoError) : Prop :=
  (out.1.isSome ∧ out.2 = none) ∨ (out.1 = none ∧ out.2.isSome)

/-- How a `Transcode` method's answer `out` follows from what its body did: one of the two
allowed answers unless the body panicked with nil, and for a panic the error built from
the panic value. -/
structure Answers (body : Except PanicValue (Option TranscodeData × Option GoError))
    (out : Option TranscodeData × Option GoError) : Prop where
  settled : body ≠ .error .nil → Settled out
  nilPanic : body = .error .nil → out = (none,none)
  errorPanic : ∀ err, body = .error (.error err) → out = (none,some (.unrecoverable err))
  otherPanic : ∀ text, body = .error (.other text) → out = (none,some (.unrecoverable unrecoverableFailure))

theorem resToTranscodeData_settled {res : Option TranscodeResults} {opts : List TranscodeOptions}
    {fs : FileSystem} {out : Option TranscodeData × Option GoError}
    (returned : (resToTranscodeData res opts fs).1 = .ok out) : Settled out := by
  unfold resToTranscodeData at returned
  split at returned
  · cases returned
  · split at returned
    · cases returned
      exact .inr ⟨rfl,rfl⟩
    · split at returned <;> cases returned
      · exact .inr ⟨rfl,rfl⟩
      · exact .inl ⟨rfl,rfl⟩

theorem transcodeBody_settled {env : Env} {workDir : String} {input : TranscodeOptionsIn}
    {ffmpeg : FfmpegCall} {md : SegTranscodingMetadata} {fs : FileSystem}
    {out : Option TranscodeData × Option GoError}
    (returned : (transcodeBody env workDir input ffmpeg md fs).1 = .ok out) : Settled out := by
  unfold transcodeBody at returned
  split at returned
  · cases returned
  · split at returned
    · cases returned
    · cases returned
      exact .inr ⟨rfl,rfl⟩
    · exact resToTranscodeData_settled returned

theorem recovered_answers {body : Except PanicValue (Option TranscodeData × Option GoError)}
    (settled : ∀ out, body = .ok out → Settled out) : Answers body (recovered body) := by
  cases body with
  | ok out => exact ⟨fun _ => settled out rfl,nofun,nofun,nofun⟩
  | error r =>
    cases r with
    | nil => exact ⟨fun notNil => absurd rfl notNil,fun _ => rfl,nofun,nofun⟩
    | error err => exact ⟨fun _ => .inr ⟨rfl,rfl⟩,nofun,by rintro _ ⟨⟩; rfl,nofun⟩
    | other text => exact ⟨fun _ => .inr ⟨rfl,rfl⟩,nofun,nofun,by rintro _ ⟨⟩; rfl⟩

/-- Both transcoders answer as `recoverFromPanic` makes them: data or an error, and for a
panic the unrecoverable error built from its value; a panic with nil leaves both results
nil. -/
theorem transcode_answers (env : Env) (md : SegTranscodingMetadata) (fs : FileSystem)
    (lt : LocalTranscoder) (transcode3 : FfmpegCall) (nv : NvidiaTranscoder) :
    Answers (transcodeBody env lt.workDir (LocalTranscoder.input md) transcode3 md fs).1
        (lt.transcode env transcode3 md fs).1 ∧
      Answers (transcodeBody env env.workDir (nv.input md) nv.session md fs).1 (nv.transcode env md fs).1 :=
  ⟨recovered_answers fun _ => transcodeBody_settled,recovered_answers fun _ => transcodeBody_settled⟩

example : (LocalTranscoder.transcode ⟨"/tmp"⟩ ⟨fun _ => "a",⟨0,"","",""⟩,"/w"⟩ (fun _ _ fs => (.error .nil,fs))
    {fname := "in.ts"} ⟨fun name => .error (.pathError "open" name),fun _ => false⟩).1 = (none,none) := rfl

end Livepeer.Core
