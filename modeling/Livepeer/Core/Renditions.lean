import Livepeer.Core.Transcode

/-! What a transcode that ffmpeg completed delivers: one segment per video profile, read
from the output file the options named for it, and the detectors' results in order. The
loop of `resToTranscodeData` removes each output once it has read it; distinct output
names keep those removals away from the files it has still to read. -/
namespace Livepeer.Core
open Livepeer.Go

section Names

variable {workDir a b : String}

theorem outName_inj (same : outName workDir a = outName workDir b) : a = b := by
  simp only [outName,String.ext_iff,String.data_append,List.append_cancel_right_eq,
    List.append_cancel_left_eq] at same
  exact String.ext same

theorem signature_ne_outName : outName workDir a ++ ".bin" ≠ outName workDir b := by
  intro same
  have ends := congrArg (fun s : String => s.data.getLast?) same
  simp only [outName,String.data_append,List.getLast?_append] at ends
  cases ends

end Names

def renditionFiles (oname : String) : List String := [oname,oname ++ ".bin"]

theorem renditionFiles_disjoint {workDir a b : String} (differ : a ≠ b) :
    (renditionFiles (outName workDir a)).Disjoint (renditionFiles (outName workDir b)) := by
  intro x ina inb
  simp only [renditionFiles,List.mem_cons,List.mem_singleton,List.not_mem_nil,or_false] at ina inb
  rcases ina with rfl | rfl <;> rcases inb with same | same
  · exact differ (outName_inj same)
  · exact signature_ne_outName same.symm
  · exact signature_ne_outName same
  · exact differ (outName_inj (by simpa [String.ext_iff] using same))

theorem exists_ok_of_isOk {answer : Except GoError Bytes} (ok : answer.isOk = true) :
    ∃ data, answer = .ok data := by
  cases answer with
  | error => cases ok
  | ok data => exact ⟨data,rfl⟩

def Readable (fs : FileSystem) (calcSign : Bool) (oname : String) : Prop :=
  (fs.readFile oname).isOk ∧ (calcSign → (fs.readFile (oname ++ ".bin")).isOk)

instance (fs : FileSystem) (calcSign : Bool) (oname : String) : Decidable (Readable fs calcSign oname) :=
  inferInstanceAs (Decidable (_ ∧ _))

def expectedSegment (fs : FileSystem) (calcSign : Bool) (p : TranscodeOptions × MediaInfo) :
    TranscodedSegmentData :=
  ⟨(fs.readFile p.1.oname).toOption.getD [],p.2.pixels,
    if calcSign then (fs.readFile (p.1.oname ++ ".bin")).toOption else none⟩

def Touches (fs fs' : FileSystem) (a : String) : Prop :=
  ∀ x ∉ renditionFiles a, fs'.readFile x = fs.readFile x

section Frame

variable {fs fs' : FileSystem} {a : String}

theorem touches_remove : Touches fs (fs.remove a) a := fun _ away =>
  FileSystem.remove_readFile fun same => away (by simp [renditionFiles,same])

theorem touches_remove_signature : Touches fs ((fs.remove (a ++ ".bin")).remove a) a := fun _ away => by
  simp only [renditionFiles,List.mem_cons,List.mem_singleton,List.not_mem_nil,or_false,not_or] at away
  rw [FileSystem.remove_readFile away.1,FileSystem.remove_readFile away.2]

theorem Touches.readFile (touches : Touches fs fs' a) (calcSign : Bool) {p : TranscodeOptions × MediaInfo}
    (apart : (renditionFiles a).Disjoint (renditionFiles p.1.oname)) :
    (Readable fs' calcSign p.1.oname ↔ Readable fs calcSign p.1.oname) ∧
      expectedSegment fs' calcSign p = expectedSegment fs calcSign p := by
  have out := touches p.1.oname fun mem => apart mem (by simp [renditionFiles])
  have sig := touches (p.1.oname ++ ".bin") fun mem => apart mem (by simp [renditionFiles])
  simp only [Readable,expectedSegment,out,sig,and_self]

end Frame

theorem readOutputs_rendition {calcSign : Bool} {opt : TranscodeOptions} (enc : MediaInfo)
    (plain : opt.detector = none) (sign : opt.calcSign = calcSign) (fs : FileSystem) (acc : Collected)
    (rest : List (TranscodeOptions × MediaInfo)) :
    (Readable fs calcSign opt.oname → ∃ fs', Touches fs fs' opt.oname ∧
      readOutputs fs acc ((opt,enc) :: rest) =
        readOutputs fs' {acc with segments := acc.segments ++ [expectedSegment fs calcSign (opt,enc)]} rest) ∧
    (¬ Readable fs calcSign opt.oname → ∃ err, readOutputs fs acc ((opt,enc) :: rest) = (.error err,fs)) := by
  subst sign
  cases out : fs.readFile opt.oname with
  | error err =>
    exact ⟨fun ready => by simp [Readable,out,Except.isOk,Except.toBool] at ready,
      fun _ => ⟨err,by simp [readOutputs,plain,out]⟩⟩
  | ok o =>
    cases signed : opt.calcSign with
    | false =>
      refine ⟨fun _ => ⟨_,touches_remove,?_⟩,
        fun unready => absurd ⟨by simp [out,Except.isOk,Except.toBool],nofun⟩ unready⟩
      simp [readOutputs,plain,out,signed,expectedSegment,Except.toOption]
    | true =>
      cases sig : fs.readFile (opt.oname ++ ".bin") with
      | error err =>
        exact ⟨fun ready => by simp [Readable,sig,Except.isOk,Except.toBool] at ready,
          fun _ => ⟨err,by simp [readOutputs,plain,out,signed,sig]⟩⟩
      | ok s =>
        refine ⟨fun _ => ⟨_,touches_remove_signature,?_⟩,
          fun unready => absurd ⟨by simp [out,Except.isOk,Except.toBool],fun _ => by simp [sig,Except.isOk,Except.toBool]⟩ unready⟩
        simp [readOutputs,plain,out,signed,sig,expectedSegment,Except.toOption]

/-- The loop over renditions whose files are pairwise apart, followed by anything: it reads
every rendition's files as they were before the loop, or stops with an error at the first
one it cannot read. -/
theorem readOutputs_renditions {calcSign : Bool} (qs : List (TranscodeOptions × MediaInfo))
    {ps : List (TranscodeOptions × MediaInfo)}
    (plain : ∀ p ∈ ps, p.1.detector = none ∧ p.1.calcSign = calcSign)
    (apart : ps.Pairwise fun p q => (renditionFiles p.1.oname).Disjoint (renditionFiles q.1.oname))
    (fs : FileSystem) (acc : Collected) :
    ((∀ p ∈ ps, Readable fs calcSign p.1.oname) → ∃ fs', readOutputs fs acc (ps ++ qs) =
        readOutputs fs' {acc with segments := acc.segments ++ ps.map (expectedSegment fs calcSign)} qs) ∧
      ((∃ p ∈ ps, ¬ Readable fs calcSign p.1.oname) →
        ∃ err fs', readOutputs fs acc (ps ++ qs) = (.error err,fs')) := by
  induction ps generalizing fs acc with
  | nil => exact ⟨fun _ => ⟨fs,by simp⟩,fun ⟨_,mem,_⟩ => absurd mem (List.not_mem_nil _)⟩
  | cons p ps ih =>
    obtain ⟨opt,enc⟩ := p
    obtain ⟨detector,sign⟩ := plain _ (List.mem_cons_self _ _)
    have step := readOutputs_rendition enc detector sign fs acc (ps ++ qs)
    obtain ⟨first,apart⟩ := List.pairwise_cons.1 apart
    have ih := ih (fun p mem => plain p (List.mem_cons_of_mem _ mem)) apart
    constructor
    · intro ready
      obtain ⟨fs',touches,ran⟩ := step.1 (ready _ (List.mem_cons_self _ _))
      have kept := fun q mem => touches.readFile calcSign (first q mem)
      obtain ⟨fs'',ran'⟩ := (ih fs' _).1 fun q mem => (kept q mem).1.2 (ready q (List.mem_cons_of_mem _ mem))
      refine ⟨fs'',?_⟩
      rw [List.cons_append,ran,ran',List.map_congr_left fun q mem => (kept q mem).2]
      simp
    · rintro ⟨p,mem,unready⟩
      by_cases ready : Readable fs calcSign opt.oname
      · obtain ⟨fs',touches,ran⟩ := step.1 ready
        rcases List.mem_cons.1 mem with rfl | mem
        · exact absurd ready unready
        obtain ⟨err,fs'',ran'⟩ := (ih fs' _).2 ⟨p,mem,fun r => unready ((touches.readFile calcSign (first p mem)).1.1 r)⟩
        exact ⟨err,fs'',by rw [List.cons_append,ran,ran']⟩
      · obtain ⟨err,ran⟩ := step.2 ready
        exact ⟨err,fs,by rw [List.cons_append,ran]⟩

theorem readOutputs_detectors {qs : List (TranscodeOptions × MediaInfo)}
    (detecting : ∀ q ∈ qs, q.1.detector.isSome) (fs : FileSystem) (acc : Collected) :
    readOutputs fs acc qs = (.ok {acc with detections := acc.detections ++ qs.map (·.2.detectData)},fs) := by
  induction qs generalizing acc with
  | nil => simp [readOutputs]
  | cons q qs ih =>
    obtain ⟨opt,enc⟩ := q
    obtain ⟨d,found⟩ : ∃ d, opt.detector = some d :=
      Option.isSome_iff_exists.1 (detecting _ (List.mem_cons_self _ _))
    simp [readOutputs,found,ih fun q mem => detecting q (List.mem_cons_of_mem _ mem)]

@[simp] theorem profilesToTranscodeOptions_length {randName : Nat → String} {workDir : String}
    {accel : Acceleration} {profiles : List VideoProfile} {calcSign : Bool} :
    (profilesToTranscodeOptions randName workDir accel profiles calcSign).length = profiles.length := by
  simp [profilesToTranscodeOptions]

theorem detectorsToTranscodeOptions_scenes (adultSoccer : SceneClassificationProfile)
    (accel : Acceleration) {profiles : List DetectorProfile}
    (scenes : ∀ p ∈ profiles, ∃ sc, p = .sceneClassification sc) :
    ∃ opts, detectorsToTranscodeOptions adultSoccer accel profiles = .ok opts ∧
      opts.length = profiles.length ∧ ∀ o ∈ opts, o.detector.isSome := by
  induction profiles with
  | nil => exact ⟨[],rfl,rfl,nofun⟩
  | cons p ps ih =>
    obtain ⟨sc,rfl⟩ := scenes p (List.mem_cons_self _ _)
    obtain ⟨opts,built,count,detecting⟩ := ih fun p mem => scenes p (List.mem_cons_of_mem _ mem)
    obtain ⟨o,one,detected⟩ : ∃ o, detectorToTranscodeOptions adultSoccer accel (.sceneClassification sc) = .ok o ∧
      o.detector.isSome := ⟨_,rfl,rfl⟩
    refine ⟨o :: opts,?_,by simp [count],?_⟩
    · rw [detectorsToTranscodeOptions,List.mapM_cons,← detectorsToTranscodeOptions,one,built]
      rfl
    · simp only [List.mem_cons]
      rintro o (rfl | mem)
      exacts [detected,detecting o mem]

section Profiles

variable {randName : Nat → String} {workDir : String} {accel : Acceleration}
  {profiles : List VideoProfile} {calcSign : Bool} {results : List MediaInfo}

theorem profileOutputs_plain :
    ∀ p ∈ (profilesToTranscodeOptions randName workDir accel profiles calcSign).zip results,
      p.1.detector = none ∧ p.1.calcSign = calcSign := by
  simp [List.forall_mem_iff_getElem,profilesToTranscodeOptions]

theorem profileOutputs_apart
    (distinct : ∀ i < profiles.length, ∀ j < profiles.length, randName i = randName j → i = j) :
    ((profilesToTranscodeOptions randName workDir accel profiles calcSign).zip results).Pairwise
      fun p q => (renditionFiles p.1.oname).Disjoint (renditionFiles q.1.oname) := by
  rw [List.pairwise_iff_getElem]
  intro i j bi bj before
  simp only [List.length_zip,Nat.lt_min,profilesToTranscodeOptions_length] at bi bj
  simp only [profilesToTranscodeOptions,List.getElem_zip,List.getElem_mapIdx]
  exact renditionFiles_disjoint fun same => before.ne (distinct i bi.1 j bj.1 same)

theorem profileOutputs_readable (count : profiles.length ≤ results.length) (fs : FileSystem) :
    (∀ p ∈ (profilesToTranscodeOptions randName workDir accel profiles calcSign).zip results,
      Readable fs calcSign p.1.oname) ↔ ∀ i < profiles.length, Readable fs calcSign (outName workDir (randName i)) := by
  simp [List.forall_mem_iff_getElem,profilesToTranscodeOptions,count]

theorem profileSegments_getElem {fs : FileSystem} {i : Nat} {data : Bytes} (bound : i < profiles.length)
    (within : i < results.length) (read : fs.readFile (outName workDir (randName i)) = .ok data) :
    (((profilesToTranscodeOptions randName workDir accel profiles calcSign).zip results).map
      (expectedSegment fs calcSign))[i]? = some ⟨data,results[i].pixels,
        if calcSign then (fs.readFile (outName workDir (randName i) ++ ".bin")).toOption else none⟩ := by
  rw [List.getElem?_map,List.getElem?_eq_getElem (by simpa using Nat.lt_min.2 ⟨bound,within⟩)]
  simp [profilesToTranscodeOptions,expectedSegment,read,Except.toOption]

end Profiles

theorem map_detectData_zip {dets : List TranscodeOptions} {results : List MediaInfo}
    (count : results.length ≤ dets.length) :
    (dets.zip results).map (·.2.detectData) = results.map (·.detectData) := calc
  _ = ((dets.zip results).map Prod.snd).map (·.detectData) := by
    rw [List.map_map]
    rfl
  _ = _ := by rw [List.map_snd_zip _ _ count]

/-- What a transcode answer `out` is said to be, given the output names `names` of its
options, the results `res` ffmpeg returned and the file system `fs` ffmpeg left: data and
no error exactly when there is one result per option and every rendition's files can be
read; and then one segment per profile read from its files, the detectors' results in
order, and the decoded pixel count. -/
structure Delivers (md : SegTranscodingMetadata) (names : Nat → String) (res : TranscodeResults)
    (fs : FileSystem) (out : Option TranscodeData × Option GoError) : Prop where
  succeeds : (∃ td, out = (some td,none)) ↔
    res.encoded.length = md.profiles.length + (if md.detectorEnabled then md.detectorProfiles.length else 0) ∧
      ∀ i < md.profiles.length, (fs.readFile (names i)).isOk ∧
        (md.calcPerceptualHash → (fs.readFile (names i ++ ".bin")).isOk)
  delivered : ∀ td, out = (some td,none) →
    td.segments.length = md.profiles.length ∧
    (∀ i < md.profiles.length, ∃ data enc, fs.readFile (names i) = .ok data ∧ res.encoded[i]? = some enc ∧
      td.segments[i]? = some ⟨data,enc.pixels,
        if md.calcPerceptualHash then (fs.readFile (names i ++ ".bin")).toOption else none⟩) ∧
    td.detections = (if md.detectorEnabled then (res.encoded.drop md.profiles.length).map (·.detectData) else []) ∧
    td.pixels = res.decoded.pixels

theorem delivers_failed {md : SegTranscodingMetadata} {names : Nat → String} {res : TranscodeResults}
    {fs : FileSystem} {err : GoError}
    (failed : ¬ (res.encoded.length = md.profiles.length + (if md.detectorEnabled then md.detectorProfiles.length else 0) ∧
      ∀ i < md.profiles.length, (fs.readFile (names i)).isOk ∧
        (md.calcPerceptualHash → (fs.readFile (names i ++ ".bin")).isOk))) :
    Delivers md names res fs (none,some err) :=
  ⟨⟨fun ⟨_,answered⟩ => (by cases answered),fun holds => absurd holds failed⟩,fun _ answered => (by cases answered)⟩

theorem resToTranscodeData_delivers {randName : Nat → String} {workDir : String} {accel : Acceleration}
    {md : SegTranscodingMetadata} {dets : List TranscodeOptions} {res : TranscodeResults} {fs : FileSystem}
    (count : dets.length = if md.detectorEnabled then md.detectorProfiles.length else 0)
    (detecting : ∀ o ∈ dets, o.detector.isSome)
    (distinct : ∀ i < md.profiles.length, ∀ j < md.profiles.length, randName i = randName j → i = j) :
    Delivers md (fun i => outName workDir (randName i)) res fs
      (recovered (resToTranscodeData (some res)
        (profilesToTranscodeOptions randName workDir accel md.profiles md.calcPerceptualHash ++ dets) fs).1) := by
  by_cases lengths : res.encoded.length = md.profiles.length + (if md.detectorEnabled then md.detectorProfiles.length else 0)
  swap
  · have mismatch : res.encoded.length ≠ (profilesToTranscodeOptions randName workDir accel md.profiles
        md.calcPerceptualHash ++ dets).length := by simpa [count] using lengths
    simp only [resToTranscodeData,mismatch,if_true,ne_eq,not_false_eq_true]
    exact delivers_failed fun holds => lengths holds.1
  have takeLen : (res.encoded.take md.profiles.length).length = md.profiles.length := by simp; omega
  have split : (profilesToTranscodeOptions randName workDir accel md.profiles md.calcPerceptualHash ++ dets).zip
      (res.encoded.take md.profiles.length ++ res.encoded.drop md.profiles.length) =
      (profilesToTranscodeOptions randName workDir accel md.profiles md.calcPerceptualHash).zip
        (res.encoded.take md.profiles.length) ++ dets.zip (res.encoded.drop md.profiles.length) :=
    List.zip_append (by rw [takeLen,profilesToTranscodeOptions_length])
  rw [List.take_append_drop] at split
  have detsZip : ∀ q ∈ dets.zip (res.encoded.drop md.profiles.length), q.1.detector.isSome :=
    fun q mem => detecting q.1 (List.of_mem_zip mem).1
  have detections : (dets.zip (res.encoded.drop md.profiles.length)).map (·.2.detectData) =
      if md.detectorEnabled then (res.encoded.drop md.profiles.length).map (·.detectData) else [] := by
    rw [map_detectData_zip (by simp; omega)]
    cases enabled : md.detectorEnabled
    · rw [enabled,if_neg Bool.false_ne_true] at lengths
      rw [List.drop_eq_nil_of_le (by omega)]
      rfl
    · rfl
  obtain ⟨read,failed⟩ := readOutputs_renditions (dets.zip (res.encoded.drop md.profiles.length))
    profileOutputs_plain (profileOutputs_apart distinct) fs {}
  have readable : (∀ p ∈ (profilesToTranscodeOptions randName workDir accel md.profiles md.calcPerceptualHash).zip
      (res.encoded.take md.profiles.length), Readable fs md.calcPerceptualHash p.1.oname) ↔
      ∀ i < md.profiles.length, Readable fs md.calcPerceptualHash (outName workDir (randName i)) :=
    profileOutputs_readable (le_of_eq takeLen.symm) fs
  have agree : res.encoded.length = (profilesToTranscodeOptions randName workDir accel md.profiles
      md.calcPerceptualHash ++ dets).length := by simp [count,lengths]
  by_cases ready : ∀ i < md.profiles.length, Readable fs md.calcPerceptualHash (outName workDir (randName i))
  · obtain ⟨fs',ran⟩ := read (readable.2 ready)
    rw [readOutputs_detectors detsZip] at ran
    simp only [resToTranscodeData,agree,ne_eq,not_true_eq_false,if_false,split,ran]
    refine ⟨⟨fun _ => ⟨lengths,ready⟩,fun _ => ⟨_,rfl⟩⟩,?_⟩
    rintro td ⟨⟩
    refine ⟨by simp [takeLen],fun i bound => ?_,by simpa using detections,rfl⟩
    obtain ⟨found,-⟩ := ready i bound
    obtain ⟨data,read⟩ := exists_ok_of_isOk found
    have within : i < res.encoded.length := by omega
    refine ⟨data,res.encoded[i],read,List.getElem?_eq_getElem within,?_⟩
    rw [List.nil_append,profileSegments_getElem bound (by rwa [takeLen]) read,List.getElem_take]
  · have unready := mt readable.1 ready
    simp only [not_forall,exists_prop] at unready
    obtain ⟨p,mem,unready⟩ := unready
    obtain ⟨err,fs',ran⟩ := failed ⟨p,mem,unready⟩
    simp only [resToTranscodeData,agree,ne_eq,not_true_eq_false,if_false,split,ran]
    exact delivers_failed fun holds => ready holds.2

theorem transcodeOptions_scenes (env : Env) (workDir : String) (accel : Acceleration)
    {md : SegTranscodingMetadata}
    (scenes : md.detectorEnabled = true → ∀ p ∈ md.detectorProfiles, ∃ sc, p = .sceneClassification sc) :
    ∃ dets, transcodeOptions env workDir accel md =
        .ok (profilesToTranscodeOptions env.randName workDir accel md.profiles md.calcPerceptualHash ++ dets) ∧
      dets.length = (if md.detectorEnabled then md.detectorProfiles.length else 0) ∧
      ∀ o ∈ dets, o.detector.isSome := by
  cases enabled : md.detectorEnabled
  · exact ⟨[],by simp [transcodeOptions,enabled],rfl,nofun⟩
  · obtain ⟨dets,built,count,detecting⟩ :=
      detectorsToTranscodeOptions_scenes env.adultSoccer accel (scenes enabled)
    exact ⟨dets,by simp [transcodeOptions,enabled,built,Except.map],by simp [count],detecting⟩

theorem transcodeWith_delivers {env : Env} {workDir : String} {input : TranscodeOptionsIn}
    {ffmpeg : FfmpegCall} {md : SegTranscodingMetadata} {fs after : FileSystem} {res : TranscodeResults}
    (scenes : md.detectorEnabled = true → ∀ p ∈ md.detectorProfiles, ∃ sc, p = .sceneClassification sc)
    (distinct : ∀ i < md.profiles.length, ∀ j < md.profiles.length, env.randName i = env.randName j → i = j)
    (ran : ∀ opts, transcodeOptions env workDir input.accel md = .ok opts →
      ffmpeg input opts fs = (.ok (some res,none),after)) :
    Delivers md (fun i => outName workDir (env.randName i)) res after (transcodeWith env workDir input ffmpeg md fs).1 := by
  obtain ⟨dets,built,count,detecting⟩ :=
    transcodeOptions_scenes env workDir input.accel scenes
  simp only [transcodeWith,transcodeBody,built,ran _ built]
  exact resToTranscodeData_delivers count detecting distinct

/-- Whenever ffmpeg returns results without error, both transcoders answer with data
exactly when there is one result per option and every output file (and signature file)
they named can be read, and that data is one segment per profile read from its files,
the detectors' results in order, and the decoded pixel count. -/
theorem transcode_delivers (env : Env) (md : SegTranscodingMetadata) (fs : FileSystem)
    (scenes : md.detectorEnabled = true → ∀ p ∈ md.detectorProfiles, ∃ sc, p = .sceneClassification sc)
    (distinct : ∀ i < md.profiles.length, ∀ j < md.profiles.length, env.randName i = env.randName j → i = j) :
    (∀ (lt : LocalTranscoder) (transcode3 : FfmpegCall) res after,
      (∀ opts, transcodeOptions env lt.workDir .software md = .ok opts →
        transcode3 (LocalTranscoder.input md) opts fs = (.ok (some res,none),after)) →
      Delivers md (fun i => outName lt.workDir (env.randName i)) res after (lt.transcode env transcode3 md fs).1) ∧
    (∀ (nv : NvidiaTranscoder) res after,
      (∀ opts, transcodeOptions env env.workDir .nvidia md = .ok opts →
        nv.session (nv.input md) opts fs = (.ok (some res,none),after)) →
      Delivers md (fun i => outName env.workDir (env.randName i)) res after (nv.transcode env md fs).1) :=
  ⟨fun _ _ _ _ ran => transcodeWith_delivers scenes distinct ran,
    fun _ _ _ ran => transcodeWith_delivers scenes distinct ran⟩

def twoRenditions : SegTranscodingMetadata :=
  { fname := "in.ts", profiles := [⟨"P240p30fps16x9"⟩,⟨"P360p30fps16x9"⟩], calcPerceptualHash := true,
    detectorEnabled := true, detectorProfiles := [.sceneClassification ⟨1,"","",""⟩] }

/-- `RandName` answering `0`, `1`, ... in turn. -/
def countingEnv : Env := ⟨fun i => toString i,⟨0,"","",""⟩,"/tmp"⟩

def missingFiles : FileSystem := ⟨fun name => .error (FileSystem.notExist name),fun _ => false⟩

def withOutputs (opts : List TranscodeOptions) (fs : FileSystem) : FileSystem :=
  {fs with readFile := fun name => if opts.any (·.oname == name) then .ok [0] else fs.readFile name}

def completingFfmpeg : FfmpegCall := fun _ opts fs =>
  (.ok (some ⟨⟨1,⟨[]⟩⟩,opts.map fun _ => ⟨1,⟨[]⟩⟩⟩,none),withOutputs opts fs)

theorem twoRenditions_delivers :
    (twoRenditions.detectorEnabled = true → ∀ p ∈ twoRenditions.detectorProfiles, ∃ sc, p = .sceneClassification sc) ∧
    (∀ i < twoRenditions.profiles.length, ∀ j < twoRenditions.profiles.length,
      countingEnv.randName i = countingEnv.randName j → i = j) ∧
    ((∀ (lt : LocalTranscoder) (transcode3 : FfmpegCall) res after,
      (∀ opts, transcodeOptions countingEnv lt.workDir .software twoRenditions = .ok opts →
        transcode3 (LocalTranscoder.input twoRenditions) opts missingFiles = (.ok (some res,none),after)) →
      Delivers twoRenditions (fun i => outName lt.workDir (countingEnv.randName i)) res after
        (lt.transcode countingEnv transcode3 twoRenditions missingFiles).1) ∧
    (∀ (nv : NvidiaTranscoder) res after,
      (∀ opts, transcodeOptions countingEnv countingEnv.workDir .nvidia twoRenditions = .ok opts →
        nv.session (nv.input twoRenditions) opts missingFiles = (.ok (some res,none),after)) →
      Delivers twoRenditions (fun i => outName countingEnv.workDir (countingEnv.randName i)) res after
        (nv.transcode countingEnv twoRenditions missingFiles).1)) :=
  have scenes : twoRenditions.detectorEnabled = true →
      ∀ p ∈ twoRenditions.detectorProfiles, ∃ sc, p = .sceneClassification sc := by
    simp [twoRenditions]
  have distinct : ∀ i < twoRenditions.profiles.length, ∀ j < twoRenditions.profiles.length,
      countingEnv.randName i = countingEnv.randName j → i = j := by decide
  ⟨scenes,distinct,transcode_delivers countingEnv twoRenditions missingFiles scenes distinct⟩

end Livepeer.Core
