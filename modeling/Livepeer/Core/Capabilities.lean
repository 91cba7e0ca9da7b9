import Livepeer.Core.Renditions

/-! The capability probes of `core/transcoder.go`. `forEachTranscoderSample` walks the
default and then the optional capabilities, writes each one's test segment and hands it
to a probe, which transcodes it on every GPU (or in software) and decides whether the node
supports the capability. The table of `core/capabilities.go`, gzip and the transcoding
sessions are parameters. -/
namespace Livepeer.Core
open Livepeer.Go

abbrev Capability := Nat

structure CapabilityTest where
  inVideoData : Bytes
  outProfile : VideoProfile
deriving DecidableEq, Repr

structure CapabilityTable where
  defaultCapabilities : List Capability
  optionalCapabilities : List Capability
  capabilityTestLookup : Capability → Option CapabilityTest
  capabilityToName : Capability → Except GoError String

structure Gzip where
  newReader : Bytes → Except GoError Bytes
  readAll : Bytes → Except GoError Bytes

structure TranscodeTestParams where
  testAvailable : Bool := false
  cap : Capability := 0
  outProfile : VideoProfile := ⟨""⟩
  segmentPath : String
deriving DecidableEq, Repr

namespace TranscodeTestParams

variable (table : CapabilityTable) (params : TranscodeTestParams)

def isRequired : Bool := table.defaultCapabilities.contains params.cap

def kind : String := if params.isRequired table then "required capability" else "optional capability"

def name : String :=
  match table.capabilityToName params.cap with
  | .ok name => name
  | .error _ => "unknown"

end TranscodeTestParams

def testSegmentPath (workDir : String) : String :=
  if workDir = "" then "testseg.tempfile" else workDir ++ "/testseg.tempfile"

/-- The test segment of a capability written to `path` when the capability has a test:
`none` when `gzip.NewReader`, `ioutil.ReadAll` or `ioutil.WriteFile` fails and the loop
moves on to the next capability. -/
def prepareTestSegment (gzip : Gzip) (path : String) : Option CapabilityTest → FileSystem → Option FileSystem
  | none, fs => some fs
  | some capTest, fs =>
    match gzip.newReader capTest.inVideoData with
    | .error _ => none
    | .ok z =>
      match gzip.readAll z with
      | .error _ => none
      | .ok seg => (fs.writeFile path seg).toOption

abbrev SampleHandler (σ : Type) :=
  TranscodeTestParams → σ → FileSystem → Except PanicValue (Bool × σ) × FileSystem

/-- The loop of `forEachTranscoderSample`. The parameters are one variable across the
iterations, so `OutProfile` keeps its last value for a capability without a test. -/
def sampleLoop {σ : Type} (table : CapabilityTable) (gzip : Gzip) (handler : SampleHandler σ) :
    List Capability → TranscodeTestParams → σ → FileSystem → Except PanicValue σ × FileSystem
  | [],_,st,fs => (.ok st,fs)
  | cap :: rest,params,st,fs =>
    let test := table.capabilityTestLookup cap
    let params := {params with cap := cap, testAvailable := test.isSome,
                               outProfile := match test with
                                 | some capTest => capTest.outProfile
                                 | none => params.outProfile}
    match prepareTestSegment gzip params.segmentPath test fs with
    | none => sampleLoop table gzip handler rest params st fs
    | some fs =>
      match handler params st fs with
      | (.error r,fs) => (.error r,fs)
      | (.ok (false,st),fs) => (.ok st,fs)
      | (.ok (true,st),fs) => sampleLoop table gzip handler rest params st fs

def forEachTranscoderSample {σ : Type} (table : CapabilityTable) (gzip : Gzip) (workDir : String)
    (handler : SampleHandler σ) (st : σ) (fs : FileSystem) : Except PanicValue σ × FileSystem :=
  let run := sampleLoop table gzip handler (table.defaultCapabilities ++ table.optionalCapabilities)
    {segmentPath := testSegmentPath workDir} st fs
  (run.1,run.2.remove (testSegmentPath workDir))

def testOutcome : Option TranscodeData × Option GoError → Except PanicValue (Bool × Bool × Option GoError)
  | (_,some err) => .ok (false,false,some err)
  | (none,none) => .error nilDereference
  | (some td,none) => .ok (decide (0 < td.segments.length),decide (0 < td.pixels),none)

def testNvidiaTranscode (env : Env) (gpu : FfmpegCall) (device fname : String) (profile : VideoProfile)
    (renditionCount : Nat) (fs : FileSystem) : Except PanicValue (Bool × Bool × Option GoError) × FileSystem :=
  let run := (NvidiaTranscoder.mk device gpu).transcode env
    {fname := fname, profiles := List.replicate renditionCount profile} fs
  (testOutcome run.1,run.2)

def testSoftwareTranscode (env : Env) (transcode3 : FfmpegCall) (tmpdir fname : String) (profile : VideoProfile)
    (renditionCount : Nat) (fs : FileSystem) : Except PanicValue (Bool × Bool × Option GoError) × FileSystem :=
  let run := (LocalTranscoder.mk tmpdir).transcode env transcode3
    {fname := fname, profiles := List.replicate renditionCount profile} fs
  (testOutcome run.1,run.2)

/-- The answer the capability tests accept: data and no error, with a segment and decoded
pixels. -/
def Passes (out : Option TranscodeData × Option GoError) : Prop :=
  ∃ td, out = (some td,none) ∧ 0 < td.segments.length ∧ 0 < td.pixels

theorem testOutcome_passes (out : Option TranscodeData × Option GoError) :
    testOutcome out = .ok (true,true,none) ↔ Passes out := by
  rcases out with ⟨_|td,_|err⟩ <;> simp [testOutcome,Passes]

section Tests

variable {env : Env} {fname : String} {profile : VideoProfile} {n : Nat} {fs fs' : FileSystem}

theorem testNvidiaTranscode_ok_iff {gpu : FfmpegCall} {device : String} :
    testNvidiaTranscode env gpu device fname profile n fs = (.ok (true,true,none),fs') ↔
      let run := (NvidiaTranscoder.mk device gpu).transcode env {fname := fname, profiles := List.replicate n profile} fs
      Passes run.1 ∧ run.2 = fs' := by
  simp only [testNvidiaTranscode,Prod.mk.injEq,testOutcome_passes]

theorem testSoftwareTranscode_ok_iff {transcode3 : FfmpegCall} {tmpdir : String} :
    testSoftwareTranscode env transcode3 tmpdir fname profile n fs = (.ok (true,true,none),fs') ↔
      let run := (LocalTranscoder.mk tmpdir).transcode env transcode3
        {fname := fname, profiles := List.replicate n profile} fs
      Passes run.1 ∧ run.2 = fs' := by
  simp only [testSoftwareTranscode,Prod.mk.injEq,testOutcome_passes]

end Tests

structure Probe where
  caps : List Capability := []
  fatalError : Option GoError := none
deriving DecidableEq, Repr

def Probe.supports (st : Probe) (cap : Capability) : Probe := {st with caps := st.caps ++ [cap]}

def nvencSessionsRestricted : GoError :=
  .errorString "maximum number of simultaneous NVENC video encoding sessions is restricted by driver"

def indexOutOfRange : PanicValue := .error (.runtime "index out of range [0] with length 0")

def notSupported (table : CapabilityTable) (params : TranscodeTestParams) : GoError :=
  .errorString (params.kind table ++ " " ++ quote (params.name table) ++ " is not supported on hardware")

/-- The first part of the closure `transcodingFailed`: while `runRestrictedSessionTest`
holds, the three-rendition test on `devices[0]` and its check for a driver limit. -/
def restrictedSessionTest (env : Env) (gpu : FfmpegCall) (devices : List String) (params : TranscodeTestParams)
    (runRestrictedSessionTest : Bool) (fatalError : Option GoError) (fs : FileSystem) :
    Except PanicValue (Option GoError) × FileSystem :=
  if runRestrictedSessionTest then
    match devices[0]? with
    | none => (.error indexOutOfRange,fs)
    | some first =>
      match testNvidiaTranscode env gpu first params.segmentPath params.outProfile 3 fs with
      | (.error r,fs) => (.error r,fs)
      | (.ok (outputProduced,outputValid,err),fs) =>
        (.ok (if err.isSome && outputProduced && outputValid then some nvencSessionsRestricted else fatalError),fs)
  else (.ok fatalError,fs)

def transcodingFailed (env : Env) (gpu : FfmpegCall) (table : CapabilityTable) (devices : List String)
    (params : TranscodeTestParams) (runRestrictedSessionTest : Bool) (fatalError : Option GoError)
    (fs : FileSystem) : Except PanicValue (Option GoError) × FileSystem :=
  match restrictedSessionTest env gpu devices params runRestrictedSessionTest fatalError fs with
  | (.error r,fs) => (.error r,fs)
  | (.ok fatalError,fs) =>
    (.ok (if params.isRequired table then some (notSupported table params) else fatalError),fs)

/-- The loop over the devices in the probe of one capability: the four-rendition test on
each device; at the first one that fails (an error, or no segment or no pixels),
`transcodingFailed` and the answer `fatalError == nil`. -/
def probeDevices (env : Env) (gpu : FfmpegCall) (table : CapabilityTable) (devices : List String)
    (params : TranscodeTestParams) (st : Probe) :
    List String → Bool → FileSystem → Except PanicValue (Bool × Probe) × FileSystem
  | [],_,fs => (.ok (true,st.supports params.cap),fs)
  | device :: rest,runRestrictedSessionTest,fs =>
    match testNvidiaTranscode env gpu device params.segmentPath params.outProfile 4 fs with
    | (.error r,fs) => (.error r,fs)
    | (.ok (outputProduced,outputValid,err),fs) =>
      if err.isSome || !outputProduced || !outputValid then
        match transcodingFailed env gpu table devices params runRestrictedSessionTest st.fatalError fs with
        | (.error r,fs) => (.error r,fs)
        | (.ok fatalError,fs) => (.ok (fatalError.isNone,{st with fatalError := fatalError}),fs)
      else probeDevices env gpu table devices params st rest false fs

def gpuProbe (env : Env) (gpu : FfmpegCall) (table : CapabilityTable) (devices : List String) :
    SampleHandler Probe := fun params st fs =>
  if params.testAvailable then probeDevices env gpu table devices params st devices true fs
  else (.ok (true,st.supports params.cap),fs)

def testTranscoderCapabilities (env : Env) (gpu : FfmpegCall) (table : CapabilityTable) (gzip : Gzip)
    (devices : List String) (fs : FileSystem) : Except PanicValue (List Capability × Option GoError) × FileSystem :=
  let run := forEachTranscoderSample table gzip env.workDir (gpuProbe env gpu table devices) {} fs
  (run.1.map fun st => (st.caps,st.fatalError),run.2)

def emptyResultSegment (cap : Capability) : GoError :=
  .errorString ("empty result segment when testing for capability " ++ toString cap)

def softwareProbe (env : Env) (transcode3 : FfmpegCall) (tmpdir : String) : SampleHandler Probe :=
  fun params st fs =>
  if !params.testAvailable then (.ok (true,st.supports params.cap),fs)
  else
    match testSoftwareTranscode env transcode3 tmpdir params.segmentPath params.outProfile 4 fs with
    | (.error r,fs) => (.error r,fs)
    | (.ok (_,_,some _),fs) => (.ok (true,st),fs)
    | (.ok (outputProduced,outputValid,none),fs) =>
      if !outputProduced || !outputValid then
        (.ok (false,{st with fatalError := some (emptyResultSegment params.cap)}),fs)
      else (.ok (true,st.supports params.cap),fs)

def testSoftwareTranscoderCapabilities (env : Env) (transcode3 : FfmpegCall) (table : CapabilityTable)
    (gzip : Gzip) (tmpdir : String) (fs : FileSystem) :
    Except PanicValue (List Capability × Option GoError) × FileSystem :=
  let run := forEachTranscoderSample table gzip env.workDir (softwareProbe env transcode3 tmpdir) {} fs
  (run.1.map fun st => (st.caps,st.fatalError),run.2)

section Restricted

variable {env : Env} {gpu : FfmpegCall} {table : CapabilityTable} {devices : List String}
  {params : TranscodeTestParams}

theorem testOutcome_failed {out : Option TranscodeData × Option GoError} {produced valid : Bool}
    {err : GoError} (read : testOutcome out = .ok (produced,valid,some err)) :
    produced = false ∧ valid = false := by
  obtain ⟨td,_ | e⟩ := out
  · cases td <;> simp [testOutcome] at read
  · simp only [testOutcome,Except.ok.injEq,Prod.mk.injEq] at read
    exact ⟨read.1.symm,read.2.1.symm⟩

theorem restrictedSessionTest_keeps {run : Bool} {fatalError fatalError' : Option GoError}
    {fs fs' : FileSystem}
    (tested : restrictedSessionTest env gpu devices params run fatalError fs = (.ok fatalError',fs')) :
    fatalError' = fatalError := by
  unfold restrictedSessionTest at tested
  split at tested
  · split at tested
    · cases tested
    · split at tested
      · cases tested
      · rename_i produced valid err _ ran
        simp only [Prod.mk.injEq,Except.ok.injEq] at tested
        rw [← tested.1]
        cases err with
        | none => simp
        | some err => simp [testOutcome_failed (congrArg Prod.fst ran)]
  · simp only [Prod.mk.injEq,Except.ok.injEq] at tested
    exact tested.1.symm

theorem notSupported_ne_restricted : notSupported table params ≠ nvencSessionsRestricted := by
  intro same
  have first := congrArg (fun e => match e with | .errorString s => s.data.head? | _ => none) same
  unfold notSupported TranscodeTestParams.kind at first
  split at first <;> simp [nvencSessionsRestricted] at first

theorem transcodingFailed_keeps {run : Bool} {fatalError fatalError' : Option GoError} {fs fs' : FileSystem}
    (kept : fatalError ≠ some nvencSessionsRestricted)
    (failed : transcodingFailed env gpu table devices params run fatalError fs = (.ok fatalError',fs')) :
    fatalError' ≠ some nvencSessionsRestricted := by
  unfold transcodingFailed at failed
  split at failed
  · cases failed
  · rename_i tested
    simp only [Prod.mk.injEq,Except.ok.injEq] at failed
    rw [← failed.1]
    split
    · simpa using notSupported_ne_restricted
    · rwa [restrictedSessionTest_keeps tested]

def PassesOnDevices (env : Env) (gpu : FfmpegCall) (fname : String) (profile : VideoProfile) :
    List String → FileSystem → Prop
  | [],_ => True
  | device :: rest,fs =>
    let run := (NvidiaTranscoder.mk device gpu).transcode env {fname := fname, profiles := List.replicate 4 profile} fs
    Passes run.1 ∧ PassesOnDevices env gpu fname profile rest run.2

theorem probeDevices_cases {st : Probe} (rest : List String) {run : Bool} {fs fs' : FileSystem} {go : Bool}
    {st' : Probe} (probed : probeDevices env gpu table devices params st rest run fs = (.ok (go,st'),fs')) :
    (∃ run' fs₁ fatalError, transcodingFailed env gpu table devices params run' st.fatalError fs₁ =
        (.ok fatalError,fs') ∧ st' = {st with fatalError := fatalError}) ∨
      st' = st.supports params.cap ∧ PassesOnDevices env gpu params.segmentPath params.outProfile rest fs := by
  induction rest generalizing run fs with
  | nil =>
    cases probed
    exact .inr ⟨rfl,trivial⟩
  | cons device rest ih =>
    unfold probeDevices at probed
    split at probed
    · cases probed
    · rename_i produced valid err fs₁ tested
      split at probed
      · split at probed
        · cases probed
        · rename_i failed
          cases probed
          exact .inl ⟨_,_,_,failed,rfl⟩
      · rename_i passed
        simp only [Bool.or_eq_true,Bool.not_eq_true',not_or,Bool.not_eq_false] at passed
        obtain ⟨⟨unset,rfl⟩,rfl⟩ := passed
        cases err
        · obtain ⟨passes,rfl⟩ := testNvidiaTranscode_ok_iff.1 tested
          exact (ih probed).imp_right fun ⟨added,rest⟩ => ⟨added,passes,rest⟩
        · exact absurd rfl unset

theorem probeDevices_keeps {st : Probe} (kept : st.fatalError ≠ some nvencSessionsRestricted)
    (rest : List String) {run : Bool} {fs fs' : FileSystem} {go : Bool} {st' : Probe}
    (probed : probeDevices env gpu table devices params st rest run fs = (.ok (go,st'),fs')) :
    st'.fatalError ≠ some nvencSessionsRestricted := by
  rcases probeDevices_cases rest probed with ⟨_,_,_,failed,rfl⟩ | ⟨rfl,-⟩
  · exact transcodingFailed_keeps kept failed
  · exact kept

end Restricted

def SegmentWritten (gzip : Gzip) (path : String) (capTest : CapabilityTest) (fs : FileSystem) : Prop :=
  ∃ seg, (gzip.newReader capTest.inVideoData >>= gzip.readAll) = .ok seg ∧ fs.readFile path = .ok seg

theorem prepareTestSegment_written {gzip : Gzip} {path : String} {capTest : CapabilityTest}
    {fs fs' : FileSystem} (prepared : prepareTestSegment gzip path (some capTest) fs = some fs') :
    SegmentWritten gzip path capTest fs' := by
  simp only [prepareTestSegment] at prepared
  split at prepared
  · cases prepared
  · rename_i z opened
    split at prepared
    · cases prepared
    · rename_i seg read
      refine ⟨seg,by simp [opened,read,bind,Except.bind],?_⟩
      simp only [FileSystem.writeFile] at prepared
      split at prepared <;> cases prepared
      simp

/-- What the loop has set up when it hands `params` and `fs` to the handler for `cap`: the
capability, whether it has a test, the segment path, and for a test its output profile
and its segment written to that path. -/
structure Prepared (table : CapabilityTable) (gzip : Gzip) (path : String) (cap : Capability)
    (params : TranscodeTestParams) (fs : FileSystem) : Prop where
  cap_eq : params.cap = cap
  testAvailable_eq : params.testAvailable = (table.capabilityTestLookup cap).isSome
  segmentPath_eq : params.segmentPath = path
  tested : ∀ capTest, table.capabilityTestLookup cap = some capTest →
    params.outProfile = capTest.outProfile ∧ SegmentWritten gzip path capTest fs

/-- An invariant of the handler's variables, indexed by the capabilities walked so far,
holds over the whole loop when walking past a capability keeps it and so does every
handler call on what the loop set up for its capability. -/
theorem sampleLoop_walks {σ : Type} {table : CapabilityTable} {gzip : Gzip} {handler : SampleHandler σ}
    {path : String} (I : List Capability → σ → Prop)
    (skips : ∀ done cap st, I done st → I (done ++ [cap]) st)
    (steps : ∀ done cap params st fs go st' fs', I done st → Prepared table gzip path cap params fs →
      handler params st fs = (.ok (go,st'),fs') → I (done ++ [cap]) st')
    (caps done : List Capability) {params : TranscodeTestParams} {st st' : σ}
    {fs fs' : FileSystem} (at_ : params.segmentPath = path) (holds : I done st)
    (ran : sampleLoop table gzip handler caps params st fs = (.ok st',fs')) : I (done ++ caps) st' := by
  have past : ∀ rest done st, I done st → I (done ++ rest) st := by
    intro rest
    induction rest with
    | nil => simp
    | cons cap rest ih => exact fun done st holds => by simpa using ih _ _ (skips done cap st holds)
  induction caps generalizing done params st fs with
  | nil =>
    cases ran
    simpa using holds
  | cons cap rest ih =>
    rw [← List.singleton_append,← List.append_assoc]
    unfold sampleLoop at ran
    dsimp only at ran
    split at ran
    · exact ih _ (by exact at_) (skips _ _ _ holds) ran
    · rename_i fs₁ prepared
      have set : Prepared table gzip path cap
          {params with cap := cap, testAvailable := (table.capabilityTestLookup cap).isSome,
                       outProfile := match table.capabilityTestLookup cap with
                         | some capTest => capTest.outProfile
                         | none => params.outProfile} fs₁ := by
        refine ⟨rfl,rfl,at_,fun capTest found => ?_⟩
        rw [found] at prepared ⊢
        exact ⟨rfl,prepareTestSegment_written (at_ ▸ prepared)⟩
      split at ran
      · cases ran
      · rename_i handled
        cases ran
        exact past _ _ _ (steps _ _ _ _ _ _ _ _ holds set handled)
      · rename_i handled
        exact ih _ (by exact at_) (steps _ _ _ _ _ _ _ _ holds set handled) ran

theorem probe_returned {run : Except PanicValue Probe} {caps : List Capability} {fatalError : Option GoError}
    (returned : run.map (fun st => (st.caps,st.fatalError)) = .ok (caps,fatalError)) :
    ∃ st, run = .ok st ∧ caps = st.caps ∧ fatalError = st.fatalError := by
  cases run with
  | error => cases returned
  | ok st =>
    simp only [Except.map,Except.ok.injEq,Prod.mk.injEq] at returned
    exact ⟨st,rfl,returned.1.symm,returned.2.symm⟩

theorem testTranscoderCapabilities_fatalError {env : Env} {gpu : FfmpegCall} {table : CapabilityTable}
    {gzip : Gzip} {devices : List String} {fs : FileSystem} (caps : List Capability) :
    (testTranscoderCapabilities env gpu table gzip devices fs).1 ≠ .ok (caps,some nvencSessionsRestricted) := by
  intro reported
  obtain ⟨st,ran,-,restricted⟩ := probe_returned reported
  have loop : sampleLoop table gzip (gpuProbe env gpu table devices)
      (table.defaultCapabilities ++ table.optionalCapabilities) {segmentPath := testSegmentPath env.workDir} {} fs =
      (.ok st,_) := Prod.ext ran rfl
  refine sampleLoop_walks (fun _ (st : Probe) => st.fatalError ≠ some nvencSessionsRestricted) (fun _ _ _ kept => kept)
    ?_ _ [] rfl (by simp) loop restricted.symm
  intro _ _ params st fs go st' fs' kept _ handled
  unfold gpuProbe at handled
  split at handled
  · exact probeDevices_keeps kept _ handled
  · cases handled
    exact kept

def sessionLimitedGpu : FfmpegCall := fun _ opts fs =>
  if opts.length ≤ 3 then
    (.ok (some ⟨⟨1,⟨[]⟩⟩,opts.map fun _ => ⟨1,⟨[]⟩⟩⟩,none),
      {fs with readFile := fun name => if opts.any (·.oname == name) then .ok [0] else fs.readFile name})
  else (.ok (none,some (.errorString "no NVENC session left")),fs)

def hevcTable : CapabilityTable :=
  ⟨[],[1],fun c => if c = 1 then some ⟨[],⟨"P720p"⟩⟩ else none,fun _ => .ok "HEVC"⟩

def plainGzip : Gzip := ⟨.ok,.ok⟩

/-- Whatever the devices, the table and the GPU do, `TestTranscoderCapabilities` never
reports that the driver restricts the number of NVENC sessions; on a GPU limited to three
sessions, where the four-rendition test fails and the three-rendition test succeeds, it
returns no capability and no error. -/
theorem nvenc_session_limit_unreported :
    (∀ env gpu table gzip devices fs caps,
      (testTranscoderCapabilities env gpu table gzip devices fs).1 ≠ .ok (caps,some nvencSessionsRestricted)) ∧
    (testNvidiaTranscode countingEnv sessionLimitedGpu "0" (testSegmentPath countingEnv.workDir) ⟨"P720p"⟩ 4
        missingFiles).1 = .ok (false,false,some (.errorString "no NVENC session left")) ∧
    (testNvidiaTranscode countingEnv sessionLimitedGpu "0" (testSegmentPath countingEnv.workDir) ⟨"P720p"⟩ 3
        missingFiles).1 = .ok (true,true,none) ∧
    (testTranscoderCapabilities countingEnv sessionLimitedGpu hevcTable plainGzip ["0"] missingFiles).1 = .ok ([],none) :=
  ⟨fun _ _ _ _ _ _ => testTranscoderCapabilities_fatalError,rfl,rfl,rfl⟩

theorem prepareTestSegment_locked {gzip : Gzip} {path : String} {fs : FileSystem}
    (locked : fs.readOnly path = true) (capTest : CapabilityTest) :
    prepareTestSegment gzip path (some capTest) fs = none := by
  simp only [prepareTestSegment]
  split
  · rfl
  · split
    · rfl
    · simp [FileSystem.writeFile,locked,Except.toOption]

theorem sampleLoop_locked {env : Env} {gpu : FfmpegCall} {table : CapabilityTable} {gzip : Gzip}
    {devices : List String} {fs : FileSystem} {path : String} (locked : fs.readOnly path = true)
    (caps : List Capability) (params : TranscodeTestParams) (st : Probe) (at_ : params.segmentPath = path) :
    sampleLoop table gzip (gpuProbe env gpu table devices) caps params st fs =
      (.ok {st with caps := st.caps ++ caps.filter fun c => (table.capabilityTestLookup c).isNone},fs) := by
  induction caps generalizing params st with
  | nil => simp [sampleLoop]
  | cons cap rest ih =>
    unfold sampleLoop
    dsimp only
    cases found : table.capabilityTestLookup cap with
    | none =>
      simp only [prepareTestSegment,gpuProbe,found,Option.isSome_none,Bool.false_eq_true,if_false]
      rw [ih]
      · simp [found,Probe.supports]
      · exact at_
    | some capTest =>
      simp only [at_,prepareTestSegment_locked locked,found]
      rw [ih _ _ rfl]
      simp [found]

/-- In a work directory where the test segment cannot be written, `TestTranscoderCapabilities`
returns exactly the capabilities without a test, default ones with a test dropped, and no
fatal error. -/
theorem unwritable_segment_drops_tested (env : Env) (gpu : FfmpegCall) (table : CapabilityTable) (gzip : Gzip)
    (devices : List String) (fs : FileSystem) (locked : fs.readOnly (testSegmentPath env.workDir) = true) :
    (testTranscoderCapabilities env gpu table gzip devices fs).1 =
      .ok ((table.defaultCapabilities ++ table.optionalCapabilities).filter
        fun c => (table.capabilityTestLookup c).isNone,none) := by
  simp [testTranscoderCapabilities,forEachTranscoderSample,
    sampleLoop_locked locked _ {segmentPath := testSegmentPath env.workDir} _ rfl,
    Except.map]

def h264Table : CapabilityTable :=
  ⟨[1],[],fun c => if c = 1 then some ⟨[],⟨"P240p"⟩⟩ else none,fun _ => .ok "H264"⟩

def lockedFiles : FileSystem := {missingFiles with readOnly := fun _ => true}

theorem lockedWorkDir_drops_default :
    lockedFiles.readOnly (testSegmentPath countingEnv.workDir) = true ∧ 1 ∈ h264Table.defaultCapabilities ∧
      (testTranscoderCapabilities countingEnv sessionLimitedGpu h264Table plainGzip ["0"] lockedFiles).1 =
        .ok ([],none) :=
  ⟨rfl,by decide,by rw [unwritable_segment_drops_tested _ _ _ _ _ _ rfl]; rfl⟩

def Reported (passed : Capability → Prop) (done : List Capability) (st : Probe) : Prop :=
  st.caps.Sublist done ∧ ∀ cap ∈ st.caps, passed cap

theorem Reported.step {passed : Capability → Prop} {done : List Capability} {cap : Capability}
    {st st' : Probe} (holds : Reported passed done st)
    (grew : st'.caps = st.caps ∨ st'.caps = st.caps ++ [cap] ∧ passed cap) :
    Reported passed (done ++ [cap]) st' := by
  rcases grew with same | ⟨added,ok⟩
  · rw [Reported,same]
    exact ⟨holds.1.trans (List.sublist_append_left _ _),holds.2⟩
  · rw [Reported,added]
    exact ⟨holds.1.append (List.Sublist.refl _),by simpa [or_imp,forall_and] using ⟨holds.2,ok⟩⟩

theorem forEachTranscoderSample_reported {table : CapabilityTable} {gzip : Gzip} {workDir : String}
    {handler : SampleHandler Probe} {passed : Capability → Prop}
    (grows : ∀ cap params st fs go st' fs', Prepared table gzip (testSegmentPath workDir) cap params fs →
      handler params st fs = (.ok (go,st'),fs') → st'.caps = st.caps ∨ st'.caps = st.caps ++ [cap] ∧ passed cap)
    {fs : FileSystem} {st' : Probe} (ran : (forEachTranscoderSample table gzip workDir handler {} fs).1 = .ok st') :
    st'.caps.Sublist (table.defaultCapabilities ++ table.optionalCapabilities) ∧ ∀ cap ∈ st'.caps, passed cap := by
  have loop : sampleLoop table gzip handler (table.defaultCapabilities ++ table.optionalCapabilities)
      {segmentPath := testSegmentPath workDir} {} fs = (.ok st',_) := Prod.ext ran rfl
  have started : Reported passed [] {} := ⟨List.nil_sublist _,nofun⟩
  simpa using sampleLoop_walks (Reported passed) (fun _ _ _ holds => holds.step (.inl rfl))
    (fun _ _ _ _ _ _ _ _ holds set handled => holds.step (grows _ _ _ _ _ _ _ set handled)) _ [] rfl started loop

/-- A capability the GPU probe may report: when it has a test, its test segment, written
to the segment path, passed the four-rendition test with the test's output profile on
each device in turn. -/
def PassedOnGpu (env : Env) (gpu : FfmpegCall) (table : CapabilityTable) (gzip : Gzip) (devices : List String)
    (cap : Capability) : Prop :=
  ∀ capTest, table.capabilityTestLookup cap = some capTest →
    ∃ fs, SegmentWritten gzip (testSegmentPath env.workDir) capTest fs ∧
      PassesOnDevices env gpu (testSegmentPath env.workDir) capTest.outProfile devices fs

/-- A capability the software probe may report: when it has a test, its test segment,
written to the segment path, passed the four-rendition software transcode with the test's
output profile. -/
def PassedInSoftware (env : Env) (transcode3 : FfmpegCall) (table : CapabilityTable) (gzip : Gzip)
    (tmpdir : String) (cap : Capability) : Prop :=
  ∀ capTest, table.capabilityTestLookup cap = some capTest →
    ∃ fs, SegmentWritten gzip (testSegmentPath env.workDir) capTest fs ∧
      Passes ((LocalTranscoder.mk tmpdir).transcode env transcode3
        {fname := testSegmentPath env.workDir, profiles := List.replicate 4 capTest.outProfile} fs).1

section Probes

variable {env : Env} {table : CapabilityTable} {gzip : Gzip} {cap : Capability}
  {params : TranscodeTestParams} {st st' : Probe} {fs fs' : FileSystem} {go : Bool}

theorem Prepared.untested (set : Prepared table gzip path cap params fs) (absent : params.testAvailable = false) :
    table.capabilityTestLookup cap = none := by
  simpa [set.testAvailable_eq] using absent

theorem gpuProbe_grows {gpu : FfmpegCall} {devices : List String}
    (set : Prepared table gzip (testSegmentPath env.workDir) cap params fs)
    (handled : gpuProbe env gpu table devices params st fs = (.ok (go,st'),fs')) :
    st'.caps = st.caps ∨ st'.caps = st.caps ++ [cap] ∧ PassedOnGpu env gpu table gzip devices cap := by
  unfold gpuProbe at handled
  split at handled
  · rcases probeDevices_cases devices handled with ⟨_,_,_,_,rfl⟩ | ⟨rfl,passes⟩
    · exact .inl rfl
    refine .inr ⟨by rw [Probe.supports,set.cap_eq],fun capTest found => ?_⟩
    obtain ⟨profile,written⟩ := set.tested capTest found
    exact ⟨fs,written,by rwa [← profile,← set.segmentPath_eq]⟩
  · rename_i absent
    cases handled
    exact .inr ⟨by rw [Probe.supports,set.cap_eq],by simp [PassedOnGpu,set.untested (by simpa using absent)]⟩

theorem softwareProbe_grows {transcode3 : FfmpegCall} {tmpdir : String}
    (set : Prepared table gzip (testSegmentPath env.workDir) cap params fs)
    (handled : softwareProbe env transcode3 tmpdir params st fs = (.ok (go,st'),fs')) :
    st'.caps = st.caps ∨ st'.caps = st.caps ++ [cap] ∧ PassedInSoftware env transcode3 table gzip tmpdir cap := by
  unfold softwareProbe at handled
  split at handled
  · rename_i absent
    cases handled
    exact .inr ⟨by rw [Probe.supports,set.cap_eq],by simp [PassedInSoftware,set.untested (by simpa using absent)]⟩
  · split at handled
    · cases handled
    · cases handled
      exact .inl rfl
    · rename_i produced valid fs₁ tested
      split at handled
      · cases handled
        exact .inl rfl
      · rename_i passed
        cases handled
        refine .inr ⟨by rw [Probe.supports,set.cap_eq],fun capTest found => ?_⟩
        obtain ⟨profile,written⟩ := set.tested capTest found
        simp only [Bool.or_eq_true,Bool.not_eq_true',not_or,Bool.not_eq_false] at passed
        obtain ⟨rfl,rfl⟩ := passed
        rw [profile,set.segmentPath_eq] at tested
        exact ⟨fs,written,(testSoftwareTranscode_ok_iff.1 tested).1⟩

end Probes

/-- Whatever the devices, the table and the transcoders do, the capabilities either probe
returns are walked in the order of the default then the optional capabilities, and each
one with a test passed it: its own test segment, written to the segment path, transcoded
to four renditions of its own output profile with no error, a segment and decoded pixels,
on every device in turn or in software. -/
theorem reported_caps_passed :
    (∀ env gpu table gzip devices fs caps fatalError,
      (testTranscoderCapabilities env gpu table gzip devices fs).1 = .ok (caps,fatalError) →
        caps.Sublist (table.defaultCapabilities ++ table.optionalCapabilities) ∧
          ∀ cap ∈ caps, PassedOnGpu env gpu table gzip devices cap) ∧
    (∀ env transcode3 table gzip tmpdir fs caps fatalError,
      (testSoftwareTranscoderCapabilities env transcode3 table gzip tmpdir fs).1 = .ok (caps,fatalError) →
        caps.Sublist (table.defaultCapabilities ++ table.optionalCapabilities) ∧
          ∀ cap ∈ caps, PassedInSoftware env transcode3 table gzip tmpdir cap) := by
  constructor
  · intro env gpu table gzip devices fs caps fatalError returned
    obtain ⟨st,ran,rfl,-⟩ := probe_returned returned
    exact forEachTranscoderSample_reported (fun _ _ _ _ _ _ _ set handled => gpuProbe_grows set handled) ran
  · intro env transcode3 table gzip tmpdir fs caps fatalError returned
    obtain ⟨st,ran,rfl,-⟩ := probe_returned returned
    exact forEachTranscoderSample_reported (fun _ _ _ _ _ _ _ set handled => softwareProbe_grows set handled) ran

theorem hevc_reported_passed :
    (testTranscoderCapabilities countingEnv completingFfmpeg hevcTable plainGzip ["0"] missingFiles).1 =
        .ok ([1],none) ∧
      (testSoftwareTranscoderCapabilities countingEnv completingFfmpeg hevcTable plainGzip "/tmp" missingFiles).1 =
        .ok ([1],none) ∧
      ([1].Sublist (hevcTable.defaultCapabilities ++ hevcTable.optionalCapabilities) ∧
        ∀ cap ∈ [1], PassedOnGpu countingEnv completingFfmpeg hevcTable plainGzip ["0"] cap) ∧
      ([1].Sublist (hevcTable.defaultCapabilities ++ hevcTable.optionalCapabilities) ∧
        ∀ cap ∈ [1], PassedInSoftware countingEnv completingFfmpeg hevcTable plainGzip "/tmp" cap) :=
  have gpu : (testTranscoderCapabilities countingEnv completingFfmpeg hevcTable plainGzip ["0"]
      missingFiles).1 = .ok ([1],none) := rfl
  have software : (testSoftwareTranscoderCapabilities countingEnv completingFfmpeg hevcTable plainGzip "/tmp"
      missingFiles).1 = .ok ([1],none) := rfl
  ⟨gpu,software,reported_caps_passed.1 _ _ _ _ _ _ _ _ gpu,reported_caps_passed.2 _ _ _ _ _ _ _ _ software⟩

def preparable (gzip : Gzip) (locked : Bool) : Option CapabilityTest → Bool
  | none => true
  | some capTest =>
    match gzip.newReader capTest.inVideoData with
    | .error _ => false
    | .ok z => (gzip.readAll z).isOk && !locked

theorem prepareTestSegment_none {gzip : Gzip} {path : String} {test : Option CapabilityTest} {fs : FileSystem}
    (skipped : prepareTestSegment gzip path test fs = none) : preparable gzip (fs.readOnly path) test = false := by
  cases test with
  | none => cases skipped
  | some capTest =>
    cases opened : gzip.newReader capTest.inVideoData with
    | error => simp [preparable,opened]
    | ok z =>
      cases read : gzip.readAll z with
      | error => simp [preparable,opened,read,Except.isOk,Except.toBool]
      | ok seg =>
        cases locked : fs.readOnly path
        · simp [prepareTestSegment,opened,read,FileSystem.writeFile,locked,Except.toOption] at skipped
        · simp [preparable,opened,read,Except.isOk,Except.toBool,locked]

theorem prepareTestSegment_some {gzip : Gzip} {path : String} {test : Option CapabilityTest} {fs fs' : FileSystem}
    (prepared : prepareTestSegment gzip path test fs = some fs') :
    preparable gzip (fs.readOnly path) test = true ∧ fs'.readOnly = fs.readOnly := by
  cases test with
  | none =>
    cases prepared
    exact ⟨rfl,rfl⟩
  | some capTest =>
    cases opened : gzip.newReader capTest.inVideoData with
    | error => simp [prepareTestSegment,opened] at prepared
    | ok z =>
      cases read : gzip.readAll z with
      | error => simp [prepareTestSegment,opened,read] at prepared
      | ok seg =>
        cases locked : fs.readOnly path
        · simp only [prepareTestSegment,opened,read,FileSystem.writeFile,locked] at prepared
          cases prepared
          simp [preparable,opened,read,Except.isOk,Except.toBool,locked]
        · simp [prepareTestSegment,opened,read,FileSystem.writeFile,locked,Except.toOption] at prepared

theorem gpuProbe_no_devices {env : Env} {gpu : FfmpegCall} {table : CapabilityTable} (params : TranscodeTestParams)
    (st : Probe) (fs : FileSystem) : gpuProbe env gpu table [] params st fs = (.ok (true,st.supports params.cap),fs) := by
  unfold gpuProbe
  split <;> rfl

theorem sampleLoop_no_devices {env : Env} {gpu : FfmpegCall} {table : CapabilityTable} {gzip : Gzip}
    (caps : List Capability) (params : TranscodeTestParams) (st : Probe) (fs : FileSystem) :
    (sampleLoop table gzip (gpuProbe env gpu table []) caps params st fs).1 =
      .ok {st with caps := st.caps ++ (caps.filter fun cap =>
        preparable gzip (fs.readOnly params.segmentPath) (table.capabilityTestLookup cap))} := by
  induction caps generalizing params st fs with
  | nil => simp [sampleLoop]
  | cons cap rest ih =>
    unfold sampleLoop
    dsimp only
    split
    · rename_i skipped
      rw [ih,List.filter_cons,if_neg (by simp [prepareTestSegment_none skipped])]
    · rename_i fs₁ prepared
      obtain ⟨ready,kept⟩ := prepareTestSegment_some prepared
      rw [gpuProbe_no_devices]
      dsimp only
      rw [ih,List.filter_cons,if_pos ready,kept]
      simp [Probe.supports]

/-- With no devices `TestTranscoderCapabilities` runs no test transcode, whatever the GPU:
it reports, in the order walked and with no fatal error, every capability without a test
and every one whose test segment it could write. -/
theorem no_devices_reports_untested (env : Env) (gpu : FfmpegCall) (table : CapabilityTable) (gzip : Gzip)
    (fs : FileSystem) :
    (testTranscoderCapabilities env gpu table gzip [] fs).1 =
      .ok ((table.defaultCapabilities ++ table.optionalCapabilities).filter
        fun cap => preparable gzip (fs.readOnly (testSegmentPath env.workDir)) (table.capabilityTestLookup cap),none) := by
  simp [testTranscoderCapabilities,forEachTranscoderSample,sampleLoop_no_devices,Except.map]

theorem transcodingFailed_verdict {env : Env} {gpu : FfmpegCall} {table : CapabilityTable} {devices : List String}
    {params : TranscodeTestParams} {run : Bool} {fatalError fatalError' : Option GoError} {fs fs' : FileSystem}
    (failed : transcodingFailed env gpu table devices params run fatalError fs = (.ok fatalError',fs')) :
    fatalError' = if params.isRequired table then some (notSupported table params) else fatalError := by
  unfold transcodingFailed at failed
  split at failed
  · cases failed
  · rename_i tested
    simp only [Prod.mk.injEq,Except.ok.injEq] at failed
    rw [← failed.1,restrictedSessionTest_keeps tested]

def UnsupportedOnly (table : CapabilityTable) (st : Probe) : Prop :=
  ∀ err, st.fatalError = some err → ∃ params, params.cap ∈ table.defaultCapabilities ∧
    (table.capabilityTestLookup params.cap).isSome ∧ err = notSupported table params

theorem gpuProbe_unsupportedOnly {env : Env} {gpu : FfmpegCall} {table : CapabilityTable} {gzip : Gzip}
    {devices : List String} {cap : Capability} {params : TranscodeTestParams} {st st' : Probe} {fs fs' : FileSystem}
    {go : Bool} (set : Prepared table gzip (testSegmentPath env.workDir) cap params fs)
    (handled : gpuProbe env gpu table devices params st fs = (.ok (go,st'),fs')) (holds : UnsupportedOnly table st) :
    UnsupportedOnly table st' := by
  unfold gpuProbe at handled
  split at handled
  · rename_i available
    rcases probeDevices_cases devices handled with ⟨_,_,_,failed,rfl⟩ | ⟨rfl,-⟩
    · intro err held
      rw [transcodingFailed_verdict failed] at held
      split at held
      · rename_i required
        cases held
        refine ⟨params,by simpa [TranscodeTestParams.isRequired] using required,?_,rfl⟩
        rw [set.cap_eq,← set.testAvailable_eq]
        exact available
      · exact holds err held
    · exact holds
  · cases handled
    exact holds

def EmptyOnly (table : CapabilityTable) (done : List Capability) (st : Probe) : Prop :=
  ∀ err, st.fatalError = some err →
    ∃ cap ∈ done, (table.capabilityTestLookup cap).isSome ∧ err = emptyResultSegment cap

theorem EmptyOnly.walk {table : CapabilityTable} {done : List Capability} {st : Probe} (holds : EmptyOnly table done st)
    (cap : Capability) : EmptyOnly table (done ++ [cap]) st := fun err held =>
  have ⟨found,mem,tested,same⟩ := holds err held
  ⟨found,List.mem_append_left _ mem,tested,same⟩

theorem softwareProbe_emptyOnly {env : Env} {transcode3 : FfmpegCall} {tmpdir : String} {table : CapabilityTable}
    {gzip : Gzip} {done : List Capability} {cap : Capability} {params : TranscodeTestParams} {st st' : Probe}
    {fs fs' : FileSystem} {go : Bool} (set : Prepared table gzip (testSegmentPath env.workDir) cap params fs)
    (handled : softwareProbe env transcode3 tmpdir params st fs = (.ok (go,st'),fs')) (holds : EmptyOnly table done st) :
    EmptyOnly table (done ++ [cap]) st' := by
  unfold softwareProbe at handled
  split at handled
  · cases handled
    exact holds.walk cap
  · rename_i available
    split at handled
    · cases handled
    · cases handled
      exact holds.walk cap
    · split at handled
      · cases handled
        rintro err ⟨⟩
        refine ⟨cap,by simp,?_,by rw [set.cap_eq]⟩
        rw [← set.testAvailable_eq]
        simpa using available
      · cases handled
        exact holds.walk cap

/-- Whatever the devices, the table, the transcoders and the file system do, each probe ends
with a fatal error of one kind only. `TestTranscoderCapabilities` reports that a default
capability with a test is not supported on hardware: the restricted-session check and an
optional capability's failure never end it with an error. `TestSoftwareTranscoderCapabilities`
reports an empty result for a capability it walked that has a test. -/
theorem probes_fatal_errors :
    (∀ env gpu table gzip devices fs caps err,
      (testTranscoderCapabilities env gpu table gzip devices fs).1 = .ok (caps,some err) →
        ∃ params : TranscodeTestParams, params.cap ∈ table.defaultCapabilities ∧
          (table.capabilityTestLookup params.cap).isSome ∧ err = notSupported table params) ∧
    (∀ env transcode3 table gzip tmpdir fs caps err,
      (testSoftwareTranscoderCapabilities env transcode3 table gzip tmpdir fs).1 = .ok (caps,some err) →
        ∃ cap ∈ table.defaultCapabilities ++ table.optionalCapabilities,
          (table.capabilityTestLookup cap).isSome ∧ err = emptyResultSegment cap) := by
  constructor
  · intro env gpu table gzip devices fs caps err returned
    obtain ⟨st,ran,-,fatal⟩ := probe_returned returned
    have loop : sampleLoop table gzip (gpuProbe env gpu table devices)
        (table.defaultCapabilities ++ table.optionalCapabilities) {segmentPath := testSegmentPath env.workDir} {} fs =
        (.ok st,_) := Prod.ext ran rfl
    exact sampleLoop_walks (fun _ => UnsupportedOnly table) (fun _ _ _ holds => holds)
      (fun _ _ _ _ _ _ _ _ holds set handled => gpuProbe_unsupportedOnly set handled holds) _ [] rfl
      (fun _ none_ => by cases none_) loop err fatal.symm
  · intro env transcode3 table gzip tmpdir fs caps err returned
    obtain ⟨st,ran,-,fatal⟩ := probe_returned returned
    have loop : sampleLoop table gzip (softwareProbe env transcode3 tmpdir)
        (table.defaultCapabilities ++ table.optionalCapabilities) {segmentPath := testSegmentPath env.workDir} {} fs =
        (.ok st,_) := Prod.ext ran rfl
    exact sampleLoop_walks (EmptyOnly table) (fun _ cap _ holds => holds.walk cap)
      (fun _ _ _ _ _ _ _ _ holds set handled => softwareProbe_emptyOnly set handled holds) _ [] rfl
      (fun _ none_ => by cases none_) loop err fatal.symm

def blankFfmpeg : FfmpegCall := fun _ opts fs =>
  (.ok (some ⟨⟨0,⟨[]⟩⟩,opts.map fun _ => ⟨0,⟨[]⟩⟩⟩,none),withOutputs opts fs)

theorem h264_fatal_errors :
    (testTranscoderCapabilities countingEnv sessionLimitedGpu h264Table plainGzip ["0"] missingFiles).1 =
      .ok ([],some (notSupported h264Table {segmentPath := testSegmentPath countingEnv.workDir, cap := 1})) ∧
    (testSoftwareTranscoderCapabilities countingEnv blankFfmpeg h264Table plainGzip "/tmp" missingFiles).1 =
      .ok ([],some (emptyResultSegment 1)) ∧
    (∃ params : TranscodeTestParams, params.cap ∈ h264Table.defaultCapabilities ∧
      (h264Table.capabilityTestLookup params.cap).isSome ∧
      notSupported h264Table {segmentPath := testSegmentPath countingEnv.workDir, cap := 1} =
        notSupported h264Table params) ∧
    (∃ cap ∈ h264Table.defaultCapabilities ++ h264Table.optionalCapabilities,
      (h264Table.capabilityTestLookup cap).isSome ∧ emptyResultSegment 1 = emptyResultSegment cap) :=
  have gpu : (testTranscoderCapabilities countingEnv sessionLimitedGpu h264Table plainGzip ["0"] missingFiles).1 =
      .ok ([],some (notSupported h264Table {segmentPath := testSegmentPath countingEnv.workDir, cap := 1})) := rfl
  have software : (testSoftwareTranscoderCapabilities countingEnv blankFfmpeg h264Table plainGzip "/tmp"
      missingFiles).1 = .ok ([],some (emptyResultSegment 1)) := rfl
  ⟨gpu,software,probes_fatal_errors.1 _ _ _ _ _ _ _ _ gpu,probes_fatal_errors.2 _ _ _ _ _ _ _ _ software⟩

end Livepeer.Core
