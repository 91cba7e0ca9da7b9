import Livepeer.Core.Renditions

/-! What a transcode leaves in the file system. The loop of `resToTranscodeData` removes a
rendition's files right after it has read them; every other exit of `Transcode` returns
without removing anything, so the files ffmpeg wrote for the rendition the loop stopped
at, and for every later one, stay behind. -/
namespace Livepeer.Core
open Livepeer.Go

def removeOutputs (fs : FileSystem) (opt : TranscodeOptions) : FileSystem :=
  match opt.detector with
  | some _ => fs
  | none => if opt.calcSign then (fs.remove (opt.oname ++ ".bin")).remove opt.oname else fs.remove opt.oname

/-- A transcode answer `out` leaves the file system its ffmpeg call left, `after`, with the
files of a first part of the renditions of `opts` removed, and of all of them when it
answers with data. -/
def Leaves (opts : List TranscodeOptions) (after : FileSystem)
    (out : (Option TranscodeData × Option GoError) × FileSystem) : Prop :=
  ∃ done, done <+: opts ∧ out.2 = done.foldl removeOutputs after ∧ ((∃ td, out.1 = (some td,none)) → done = opts)

def Gone (fs : FileSystem) (opt : TranscodeOptions) : Prop :=
  fs.readFile opt.oname = .error (FileSystem.notExist opt.oname) ∧
    (opt.calcSign = true → fs.readFile (opt.oname ++ ".bin") = .error (FileSystem.notExist (opt.oname ++ ".bin")))

theorem readOutputs_cons (opt : TranscodeOptions) (enc : MediaInfo) (ps : List (TranscodeOptions × MediaInfo))
    (fs : FileSystem) (acc : Collected) :
    (∃ err, readOutputs fs acc ((opt,enc) :: ps) = (.error err,fs)) ∨
      ∃ acc', readOutputs fs acc ((opt,enc) :: ps) = readOutputs (removeOutputs fs opt) acc' ps := by
  cases found : opt.detector with
  | some d => exact .inr ⟨_,by simp [readOutputs,removeOutputs,found]; rfl⟩
  | none =>
    cases out : fs.readFile opt.oname with
    | error err => exact .inl ⟨err,by simp [readOutputs,found,out]⟩
    | ok o =>
      cases signed : opt.calcSign with
      | false => exact .inr ⟨_,by simp [readOutputs,removeOutputs,found,out,signed]; rfl⟩
      | true =>
        cases sig : fs.readFile (opt.oname ++ ".bin") with
        | error err => exact .inl ⟨err,by simp [readOutputs,found,out,signed,sig]⟩
        | ok s => exact .inr ⟨_,by simp [readOutputs,removeOutputs,found,out,signed,sig]; rfl⟩

theorem readOutputs_removes (ps : List (TranscodeOptions × MediaInfo)) (fs : FileSystem) (acc : Collected) :
    ∃ done, done <+: ps ∧ (readOutputs fs acc ps).2 = (done.map Prod.fst).foldl removeOutputs fs ∧
      ((readOutputs fs acc ps).1.isOk → done = ps) := by
  induction ps generalizing fs acc with
  | nil => exact ⟨[],List.prefix_refl _,rfl,fun _ => rfl⟩
  | cons p ps ih =>
    obtain ⟨opt,enc⟩ := p
    rcases readOutputs_cons opt enc ps fs acc with ⟨err,stopped⟩ | ⟨acc',went⟩
    · rw [stopped]
      exact ⟨[],List.nil_prefix,rfl,nofun⟩
    · obtain ⟨done,before,left,all⟩ := ih (removeOutputs fs opt) acc'
      rw [went]
      exact ⟨(opt,enc) :: done,(List.prefix_cons_inj _).2 before,left,fun ok => by rw [all ok]⟩

theorem resToTranscodeData_removes (res : Option TranscodeResults) (opts : List TranscodeOptions) (fs : FileSystem) :
    ∃ done, done <+: opts ∧ (resToTranscodeData res opts fs).2 = done.foldl removeOutputs fs ∧
      ∀ td, (resToTranscodeData res opts fs).1 = .ok (some td,none) → done = opts := by
  have untouched : ∀ r, (resToTranscodeData res opts fs) = (r,fs) → (∀ td, r ≠ .ok (some td,none)) →
      ∃ done, done <+: opts ∧ (resToTranscodeData res opts fs).2 = done.foldl removeOutputs fs ∧
        ∀ td, (resToTranscodeData res opts fs).1 = .ok (some td,none) → done = opts := fun r ran none_ =>
    ⟨[],List.nil_prefix,by rw [ran]; rfl,fun td answered => absurd (by rw [ran] at answered; exact answered) (none_ td)⟩
  match res with
  | none => exact untouched _ rfl nofun
  | some res =>
    by_cases lengths : res.encoded.length ≠ opts.length
    · exact untouched (.ok (none,some lengthsDiffer)) (by simp [resToTranscodeData,lengths]) fun _ => by simp
    · have agree : opts.length ≤ res.encoded.length := by omega
      obtain ⟨done,before,left,all⟩ := readOutputs_removes (opts.zip res.encoded) fs {}
      have names : (opts.zip res.encoded).map Prod.fst = opts := List.map_fst_zip _ _ agree
      refine ⟨done.map Prod.fst,names ▸ before.map Prod.fst,?_,fun td answered => ?_⟩
      · simp only [resToTranscodeData,lengths,if_false]
        split <;> rename_i ran <;> rw [ran] at left <;> exact left
      · simp only [resToTranscodeData,lengths,if_false] at answered
        split at answered <;> rename_i ran
        · cases answered
        · rw [ran] at all
          rw [all rfl,names]

theorem recovered_data {body : Except PanicValue (Option TranscodeData × Option GoError)} {td : TranscodeData}
    (answered : recovered body = (some td,none)) : body = .ok (some td,none) := by
  cases body with
  | ok out =>
    obtain ⟨data,err⟩ := out
    cases answered
    rfl
  | error => cases answered

/-- Every exit of a `Transcode` body, the deferred recovery included, leaves what its ffmpeg
call left with the files of a first part of the renditions removed. -/
theorem transcodeWith_leaves {env : Env} {workDir : String} {input : TranscodeOptionsIn} {ffmpeg : FfmpegCall}
    {md : SegTranscodingMetadata} {fs : FileSystem} {opts : List TranscodeOptions}
    {answer : Except PanicValue (Option TranscodeResults × Option GoError)} {after : FileSystem}
    (built : transcodeOptions env workDir input.accel md = .ok opts) (ran : ffmpeg input opts fs = (answer,after)) :
    Leaves opts after (transcodeWith env workDir input ffmpeg md fs) := by
  have failed : ∀ r, (∀ td, r ≠ .ok (some td,none)) → transcodeBody env workDir input ffmpeg md fs = (r,after) →
      Leaves opts after (transcodeWith env workDir input ffmpeg md fs) := fun r none_ body =>
    ⟨[],List.nil_prefix,by simp [transcodeWith,body],fun ⟨td,answered⟩ =>
      absurd (by simpa [transcodeWith,body] using recovered_data answered) (none_ td)⟩
  match answer,ran with
  | .error r,ran => exact failed (.error r) (fun _ => by simp) (by simp [transcodeBody,built,ran])
  | .ok (res,some err),ran => exact failed (.ok (none,some err)) (fun _ => by simp) (by simp [transcodeBody,built,ran])
  | .ok (res,none),ran =>
    obtain ⟨done,before,left,all⟩ := resToTranscodeData_removes res opts after
    have body : transcodeBody env workDir input ffmpeg md fs = resToTranscodeData res opts after := by
      simp [transcodeBody,built,ran]
    exact ⟨done,before,by simp [transcodeWith,body,left],fun ⟨td,answered⟩ =>
      all td (by simpa [transcodeWith,body] using recovered_data answered)⟩

section Gone

variable {fs : FileSystem} {opt : TranscodeOptions}

theorem removeOutputs_readOnly (opt : TranscodeOptions) : (removeOutputs fs opt).readOnly = fs.readOnly := by
  unfold removeOutputs
  split
  · rfl
  · split <;> simp

theorem removeOutputs_keeps_missing {name : String} (missing : fs.readFile name = .error (FileSystem.notExist name)) :
    (removeOutputs fs opt).readFile name = .error (FileSystem.notExist name) := by
  unfold removeOutputs
  split
  · exact missing
  · split
    · exact FileSystem.remove_keeps_missing (FileSystem.remove_keeps_missing missing)
    · exact FileSystem.remove_keeps_missing missing

theorem Gone.after_removeOutputs {other : TranscodeOptions} (gone : Gone fs opt) : Gone (removeOutputs fs other) opt :=
  ⟨removeOutputs_keeps_missing gone.1,fun signed => removeOutputs_keeps_missing (gone.2 signed)⟩

theorem Gone.after_foldl (gone : Gone fs opt) (opts : List TranscodeOptions) : Gone (opts.foldl removeOutputs fs) opt := by
  induction opts generalizing fs with
  | nil => exact gone
  | cons other opts ih => exact ih gone.after_removeOutputs

theorem removeOutputs_gone (writable : ∀ name, fs.readOnly name = false) (plain : opt.detector = none) :
    Gone (removeOutputs fs opt) opt := by
  unfold removeOutputs
  rw [plain]
  cases signed : opt.calcSign
  · exact ⟨FileSystem.remove_readFile_self (writable _),fun signs => by simp [signed] at signs⟩
  · refine ⟨FileSystem.remove_readFile_self (by simp [writable]),fun _ => ?_⟩
    exact FileSystem.remove_keeps_missing (FileSystem.remove_readFile_self (writable _))

theorem foldl_removeOutputs_gone (opts : List TranscodeOptions) (writable : ∀ name, fs.readOnly name = false) :
    ∀ opt ∈ opts, opt.detector = none → Gone (opts.foldl removeOutputs fs) opt := by
  induction opts generalizing fs with
  | nil => nofun
  | cons first opts ih =>
    intro opt mem plain
    rcases List.mem_cons.1 mem with rfl | mem
    · exact (removeOutputs_gone writable plain).after_foldl opts
    · exact ih (by simp [removeOutputs_readOnly,writable]) opt mem plain

end Gone

theorem Leaves.gone {opts : List TranscodeOptions} {after : FileSystem}
    {out : (Option TranscodeData × Option GoError) × FileSystem} (leaves : Leaves opts after out)
    (answered : ∃ td, out.1 = (some td,none)) (writable : ∀ name, after.readOnly name = false) :
    ∀ opt ∈ opts, opt.detector = none → Gone out.2 opt := by
  obtain ⟨done,-,left,all⟩ := leaves
  rw [left,all answered]
  exact foldl_removeOutputs_gone opts writable

def failingFfmpeg : FfmpegCall := fun _ opts fs =>
  (.ok (none,some (.errorString "Invalid data found when processing input")),withOutputs opts fs)

def oneRendition : SegTranscodingMetadata := {fname := "in.ts", profiles := [⟨"P240p30fps16x9"⟩]}

/-- Both transcoders leave the file system their ffmpeg call left with the files of a first
part of the renditions removed, all of them when they answer with data, so that then no
rendition file remains when every removal succeeds. Every other exit removes only what
the loop had read: when ffmpeg writes the output of a one-rendition transcode and then
fails, the output file stays. -/
theorem transcode_leaves_unread_outputs :
    (∀ env (lt : LocalTranscoder) transcode3 md fs opts answer after,
      transcodeOptions env lt.workDir .software md = .ok opts →
      transcode3 (LocalTranscoder.input md) opts fs = (answer,after) →
      Leaves opts after (lt.transcode env transcode3 md fs)) ∧
    (∀ env (nv : NvidiaTranscoder) md fs opts answer after,
      transcodeOptions env env.workDir .nvidia md = .ok opts →
      nv.session (nv.input md) opts fs = (answer,after) →
      Leaves opts after (nv.transcode env md fs)) ∧
    (∀ opts after out, Leaves opts after out → (∃ td, out.1 = (some td,none)) →
      (∀ name, after.readOnly name = false) → ∀ opt ∈ opts, opt.detector = none → Gone out.2 opt) ∧
    ((LocalTranscoder.transcode ⟨"/tmp"⟩ countingEnv failingFfmpeg oneRendition missingFiles).1 =
        (none,some (.errorString "Invalid data found when processing input")) ∧
      (LocalTranscoder.transcode ⟨"/tmp"⟩ countingEnv failingFfmpeg oneRendition missingFiles).2.readFile
        (outName "/tmp" (countingEnv.randName 0)) = .ok [0]) :=
  ⟨fun _ _ _ _ _ _ _ _ built ran => transcodeWith_leaves built ran,
    fun _ _ _ _ _ _ _ built ran => transcodeWith_leaves built ran,
    fun _ _ _ leaves answered writable => leaves.gone answered writable,rfl,rfl⟩

def oneOutput : List TranscodeOptions :=
  profilesToTranscodeOptions countingEnv.randName "/tmp" .software oneRendition.profiles false

theorem oneRendition_cleaned :
    Leaves oneOutput (withOutputs oneOutput missingFiles)
        (LocalTranscoder.transcode ⟨"/tmp"⟩ countingEnv completingFfmpeg oneRendition missingFiles) ∧
      ∀ opt ∈ oneOutput, opt.detector = none →
        Gone (LocalTranscoder.transcode ⟨"/tmp"⟩ countingEnv completingFfmpeg oneRendition missingFiles).2 opt :=
  have leaves := transcode_leaves_unread_outputs.1 countingEnv ⟨"/tmp"⟩ completingFfmpeg oneRendition missingFiles
    oneOutput _ (withOutputs oneOutput missingFiles) rfl rfl
  ⟨leaves,transcode_leaves_unread_outputs.2.2.1 _ _ _ leaves ⟨_,rfl⟩ fun _ => rfl⟩

end Livepeer.Core
