/-
  A record on disk and a record in memory answer alike.

  * `StorageCall`, `Storage.answer`: what can be asked of a storage, and what it answers.
  * `RecordFile.OpensNew`: a directory without a record, where files can be written.
  * `RecordFile.Reaches.save`: where a record can be reached, a save succeeds and leaves no draft.
  * `Storage.Mirrors.answer`, `Storage.Mirrors.answers`: call by call, a directory answers what a
    memory answers.
  * `Storage.disk_answers_eq_memory`: so both answer all calls alike from the start.
-/
import LightningLottery.Proofs.Storage.Saving

namespace LightningLottery

/-! ## Calls -/

/-- What can be asked of a storage. -/
inductive StorageCall where
  | save (identity : Identity)
  | load
  /-- Asks for the stored identity, or else for this one, which has just been made. -/
  | loadOrGenerate (fresh : Identity)
  deriving DecidableEq, Repr

/-- What a storage answers. -/
inductive StorageAnswer where
  | saved (outcome : Except Error Unit)
  | loaded (outcome : Except Error (Option Identity))
  | given (outcome : Except Error Identity)

namespace Storage

/-- A call of a storage. -/
def answer (storage : Storage) : StorageCall → Storage × StorageAnswer
  | .save identity => (storage.save identity).map id .saved
  | .load => (storage, .loaded storage.load)
  | .loadOrGenerate fresh => (storage.loadOrGenerate fresh).map id .given

/-- What becomes of a storage by many calls. -/
def after (storage : Storage) (calls : List StorageCall) : Storage :=
  calls.foldl (fun s call => (s.answer call).1) storage

/-- What a storage answers to many calls, one after the other. -/
def answers (storage : Storage) : List StorageCall → List StorageAnswer
  | [] => []
  | call :: calls => (storage.answer call).2 :: (storage.answer call).1.answers calls

end Storage

/-! ## A record that can be reached -/

namespace FileSystem

variable {fs : FileSystem}

theorem textFault?_child_sibling {route : Route} {name name' : String}
    (h : textFault? (route.child name) = none) (hsize : name'.utf8ByteSize ≤ name.utf8ByteSize) :
    textFault? (route.child name') = none := by
  unfold textFault? at h ⊢
  split at h
  · cases h
  · next hnul =>
    split at h
    · cases h
    · next hsmall =>
      have hnul' : ¬(route.child name').hasNul = true := hnul
      have hsmall' : ¬maxRoute ≤ (route.child name').size := by
        simp only [Route.child] at hsmall ⊢
        omega
      rw [if_neg hnul', if_neg hsmall']

theorem run_reliable_cons {next : FileSystem} {op : FileOp} (h : fs.apply op = .ok next) (i : Nat)
    (ops : List FileOp) : fs.run reliable i (op :: ops) = next.run reliable (i + 1) ops := by
  simp only [run, reliable, h]

/-- A file that is written in place can be reached, and no directory stands there. -/
theorem of_write {route : Route} {path : Path} {content : Bytes} (hpath : fs.resolve route = .ok path)
    (h : (fs.write route content).2 = .ok ()) :
    fs.obstacle? path = none ∧ fs.isDirectory path = false := by
  rw [write, hpath] at h
  simp only at h
  split at h
  · cases h
  · rcases fs.run_cons reliable 0 (.create path) [.append path content] with
      ⟨fault, hrun⟩ | ⟨next, happly, -⟩
    · rw [hrun] at h
      cases h
    · obtain ⟨hreach, hfile, -⟩ := of_apply_create happly
      exact ⟨hreach, hfile⟩

end FileSystem

namespace RecordFile

variable {file : RecordFile} {fs : FileSystem} {draft record : Path} {slot : Option Identity}

/-- A directory is opened that holds no record, and files can be written there. -/
structure OpensNew (file : RecordFile) (fs : FileSystem) : Prop where
  opened : (file.openAt fs).2 = .ok ()
  vacant : file.read (file.openAt fs).1 = .error .notFound
  writable : ((file.openAt fs).1.write file.draft []).2 = .ok ()

/-- The record and its draft can be reached at these paths, and no directory stands there. -/
structure Reaches (file : RecordFile) (fs : FileSystem) (draft record : Path) : Prop where
  toDraft : fs.resolve file.draft = .ok draft
  toRecord : fs.resolve file.record = .ok record
  draftOpen : fs.obstacle? draft = none
  recordOpen : fs.obstacle? record = none
  draftFree : fs.isDirectory draft = false
  recordFree : fs.isDirectory record = false

theorem OpensNew.reaches (h : file.OpensNew fs) :
    ∃ draft record, file.Reaches (file.openAt fs).1 draft record := by
  obtain ⟨draft, hdraft⟩ : ∃ draft, (file.openAt fs).1.resolve file.draft = .ok draft := by
    cases hdraft : (file.openAt fs).1.resolve file.draft with
    | ok draft => exact ⟨draft, rfl⟩
    | error fault =>
      have hwritable := h.writable
      rw [FileSystem.write, hdraft] at hwritable
      cases hwritable
  obtain ⟨hreach, hfree⟩ := FileSystem.of_write hdraft h.writable
  obtain ⟨htext, hwalk⟩ := FileSystem.resolve_child_eq_ok_iff.1 hdraft
  have hshort : recordName.utf8ByteSize ≤ FileSystem.maxName := by decide
  obtain ⟨folder, rfl, hwalk'⟩ := FileSystem.walk_name_sibling hwalk hshort
  have hrecord : (file.openAt fs).1.resolve file.record = .ok (folder ++ [recordName]) :=
    FileSystem.resolve_child_eq_ok_iff.2
      ⟨FileSystem.textFault?_child_sibling htext (by decide), hwalk'⟩
  have hreach' : (file.openAt fs).1.obstacle? (folder ++ [recordName]) = none := by
    rw [FileSystem.obstacle?_sibling folder recordName draftName, hreach]
  refine ⟨_, _, hdraft, hrecord, hreach, hreach', hfree, ?_⟩
  -- a directory in the place of the record would be found there
  have hvacant := h.vacant
  rw [read_of_resolve hrecord] at hvacant
  unfold FileSystem.isDirectory
  split
  · next isPrivate hdirectory =>
    rw [FileSystem.read, FileSystem.find_eq_ok_iff.2 ⟨hreach', hdirectory⟩] at hvacant
    cases hvacant
  · rfl

/-- **Where draft and record can be reached, a save succeeds**, stores the content, leaves no draft,
    and keeps both in reach. -/
theorem Reaches.save (h : file.Reaches fs draft record) (identity : Identity) :
    ∃ after, file.save fs identity = (after, .ok ()) ∧ file.Reaches after draft record ∧
      after.read record = .ok (content identity) ∧ after.entry? draft = none := by
  obtain ⟨hlength, hne⟩ := file.beside fs h.toDraft h.toRecord
  -- the draft is made and written
  have hempty := FileSystem.read_put_self h.draftOpen h.draftFree []
  have hopen := (FileSystem.read_eq_ok_iff.1 hempty).1
  have hwritten := FileSystem.read_put_self hopen (FileSystem.isDirectory_of_read hempty)
    ([] ++ content identity)
  have halike := (FileSystem.AlikeOff.put draft fs (.file [])).trans
    (.put draft _ (.file ([] ++ content identity)))
  generalize hlast : (fs.put draft (.file [])).put draft (.file ([] ++ content identity)) = last
    at hwritten halike
  -- it is moved over the record
  have hopen' : last.obstacle? record = none := by rw [halike.obstacle? hlength, h.recordOpen]
  have hfree' : last.isDirectory record = false := by rw [halike.isDirectory hne, h.recordFree]
  obtain ⟨hmono, hread⟩ := FileSystem.moved_spec (content identity) halike h.draftFree hlength hne
    hopen' hfree'
  have hgone : FileSystem.entry? ((last.erase draft).put record (.file (content identity))) draft =
      none := by
    rw [FileSystem.entry?_put_of_ne hne.symm,
      FileSystem.entry?_erase_self (FileSystem.isDirectory_of_read hwritten)]
  refine ⟨_, ?_, ⟨FileSystem.resolve_child_mono hmono h.toDraft,
    FileSystem.resolve_child_mono hmono h.toRecord, ?_, (FileSystem.read_eq_ok_iff.1 hread).1, ?_,
    FileSystem.isDirectory_of_read hread⟩, hread, hgone⟩
  · rw [RecordFile.save, h.toDraft, h.toRecord]
    simp only [saveOps, List.map_cons, List.map_nil, List.cons_append, List.nil_append]
    rw [FileSystem.run_reliable_cons (FileSystem.apply_create h.draftOpen h.draftFree),
      FileSystem.run_reliable_cons (FileSystem.apply_append hempty _), hlast,
      FileSystem.run_reliable_cons (FileSystem.apply_sync hwritten),
      FileSystem.run_reliable_cons (FileSystem.apply_rename hwritten hopen' hfree'), FileSystem.run,
      List.nil_append]
    simp only [Except.mapError]
  · rw [(FileSystem.AlikeOff.put record _ _).obstacle? hlength.symm,
      (FileSystem.AlikeOff.erase draft _).obstacle? rfl, halike.obstacle? rfl, h.draftOpen]
  · rw [FileSystem.isDirectory, hgone]

/-! ## What a directory stands for -/

/-- A directory holds what is in memory: there is no record, or the content of what was stored last,
    and then no draft. -/
structure Holds (file : RecordFile) (fs : FileSystem) (slot : Option Identity) : Prop where
  reaches : ∃ draft record, file.Reaches fs draft record
  read : file.read fs = match slot with
    | none => .error .notFound
    | some identity => .ok (content identity)
  draftGone : slot.isSome → fs.leadsSomewhere file.draft = false

theorem OpensNew.holds (h : file.OpensNew fs) : file.Holds (file.openAt fs).1 none :=
  ⟨h.reaches, h.vacant, nofun⟩

theorem Holds.load (h : file.Holds fs slot) : file.load fs = .ok (Storage.filled slot) := by
  cases slot with
  | none =>
    have hread := h.read
    simp only at hread
    rw [RecordFile.load, hread]
    rfl
  | some identity => exact load_of_read h.read

theorem Holds.save (h : file.Holds fs slot) (identity : Identity) :
    ∃ after, file.save fs identity = (after, .ok ()) ∧ file.Holds after (some identity) := by
  obtain ⟨draft, record, hreaches⟩ := h.reaches
  obtain ⟨after, hsave, hafter, hread, hgone⟩ := hreaches.save identity
  refine ⟨after, hsave, ⟨draft, record, hafter⟩, ?_, fun _ => ?_⟩
  · rw [read_of_resolve hafter.toRecord, hread]
  · rw [FileSystem.leadsSomewhere, hafter.toDraft]
    simp only [hgone, Option.isSome_none]

end RecordFile

namespace Storage

/-- A directory and a memory that hold the same. -/
def Mirrors (file : RecordFile) (onDisk inMemory : Storage) : Prop :=
  ∃ fs slot, onDisk = .disk fs file ∧ inMemory = .memory slot ∧ file.Holds fs slot

variable {file : RecordFile} {onDisk inMemory : Storage}

theorem Mirrors.load (h : Mirrors file onDisk inMemory) : onDisk.load = inMemory.load := by
  obtain ⟨fs, slot, rfl, rfl, hholds⟩ := h
  exact hholds.load

theorem Mirrors.save (h : Mirrors file onDisk inMemory) (identity : Identity) :
    ∃ fs', onDisk.save identity = (.disk fs' file, .ok ()) ∧
      inMemory.save identity = (.memory (some identity), .ok ()) ∧
      file.Holds fs' (some identity) := by
  obtain ⟨fs, slot, rfl, rfl, hholds⟩ := h
  obtain ⟨after, hsave, hafter⟩ := hholds.save identity
  refine ⟨after, ?_, rfl, hafter⟩
  rw [Storage.save, hsave]

/-- **One call preserves `Mirrors`, and the answers are the same.** -/
theorem Mirrors.answer (h : Mirrors file onDisk inMemory) (call : StorageCall) :
    (onDisk.answer call).2 = (inMemory.answer call).2 ∧
      Mirrors file (onDisk.answer call).1 (inMemory.answer call).1 := by
  cases call with
  | load => exact ⟨congrArg StorageAnswer.loaded h.load, h⟩
  | save identity =>
    obtain ⟨fs', hdisk, hmemory, hholds⟩ := h.save identity
    rw [Storage.answer, Storage.answer, hdisk, hmemory]
    exact ⟨rfl, fs', some identity, rfl, rfl, hholds⟩
  | loadOrGenerate fresh =>
    obtain ⟨fs', hdisk, hmemory, hholds⟩ := h.save fresh
    simp only [Storage.answer, loadOrGenerate, h.load, hdisk, hmemory]
    split
    · exact ⟨rfl, h⟩
    · exact ⟨rfl, h⟩
    · exact ⟨rfl, fs', some fresh, rfl, rfl, hholds⟩

/-- **A sequence of calls preserves `Mirrors`.** -/
theorem Mirrors.answers (h : Mirrors file onDisk inMemory) (calls : List StorageCall) :
    onDisk.answers calls = inMemory.answers calls ∧
      Mirrors file (onDisk.after calls) (inMemory.after calls) := by
  induction calls generalizing onDisk inMemory with
  | nil => exact ⟨rfl, h⟩
  | cons call calls ih =>
    obtain ⟨hanswer, h'⟩ := h.answer call
    obtain ⟨hanswers, hafter⟩ := ih h'
    exact ⟨by rw [Storage.answers, Storage.answers, hanswer, hanswers], hafter⟩

theorem filled_some (identity : Identity) :
    filled (some identity) = if identity = .empty then none else some identity := by
  have hempty : identity.isEmpty = true ↔ identity = .empty := by
    obtain ⟨privateKey, publicKey, nickname⟩ := identity
    simp only [Identity.isEmpty, Identity.empty, Bool.and_eq_true, String.isEmpty_iff,
      Identity.mk.injEq, and_assoc]
  rw [filled, Option.filter_some]
  by_cases h : identity = .empty
  · rw [if_pos h, hempty.2 h]
    rfl
  · rw [if_neg h, Bool.eq_false_iff.2 fun he => h (hempty.1 he)]
    rfl

/-- **A directory answers every sequence of calls as an empty memory does**, if it is opened without
    a record and can be written. After all calls a save succeeds, the next load gives what was saved
    (nothing for the empty identity), and no draft is left. -/
theorem disk_answers_eq_memory {fs : FileSystem} (h : file.OpensNew fs)
    (calls : List StorageCall) :
    let opened : Storage := .disk (file.openAt fs).1 file
    opened.answers calls = (memory none).answers calls ∧
      (∃ fs' slot, opened.after calls = .disk fs' file ∧ (memory none).after calls = .memory slot ∧
        (slot.isSome → fs'.leadsSomewhere file.draft = false)) ∧
      ∀ identity, ∃ fs', (opened.after calls).save identity = (.disk fs' file, .ok ()) ∧
        (disk fs' file).load = .ok (if identity = .empty then none else some identity) ∧
        fs'.leadsSomewhere file.draft = false := by
  intro opened
  have hstart : Mirrors file opened (memory none) := ⟨_, none, rfl, rfl, h.holds⟩
  obtain ⟨hanswers, hafter⟩ := hstart.answers calls
  refine ⟨hanswers, ?_, fun identity => ?_⟩
  · obtain ⟨fs', slot, hdisk, hmemory, hholds⟩ := hafter
    exact ⟨fs', slot, hdisk, hmemory, hholds.draftGone⟩
  · obtain ⟨fs', hsave, -, hholds⟩ := hafter.save identity
    exact ⟨fs', hsave, hholds.load.trans (congrArg Except.ok (filled_some identity)),
      hholds.draftGone rfl⟩

/-- Quotes, control characters and the empty identity, below the root of an empty file system. -/
theorem disk_answers_eq_memory_quoted :
    (RecordFile.below "root" "d").OpensNew .empty ∧
      ((disk ((RecordFile.below "root" "d").openAt .empty).1 (.below "root" "d")).answers
        [.load, .save ⟨"\"\x00", "\n", "ω"⟩, .load, .save .empty, .load]) =
      (memory none).answers [.load, .save ⟨"\"\x00", "\n", "ω"⟩, .load, .save .empty, .load] :=
  have h : (RecordFile.below "root" "d").OpensNew .empty :=
    ⟨by decide +kernel, by decide +kernel, by decide +kernel⟩
  ⟨h, (disk_answers_eq_memory h _).1⟩

end Storage
end LightningLottery
