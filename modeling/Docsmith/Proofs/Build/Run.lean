-- SUMMARY: What a build that succeeds has done, step by step.
import Docsmith.Build.Output
import Docsmith.Proofs.Project.FileTree
import Docsmith.Proofs.Value.Keyed

/-!
# Successful builds

A build that succeeds has taken every one of its steps. For each step it is said
what it leaves of the files and of the data, and `run_ok` puts them together.
-/

namespace Docsmith.Build

/-! ## Steps -/

/-- What a step answers, and the files afterwards. -/
def Step.exec (x : Step α) (disk : FileTree) : Answer α × FileTree := (x.run).run disk

/-- The step succeeds with a result and leaves the files in a state. -/
def Step.Ok (x : Step α) (disk : FileTree) (a : α) (disk' : FileTree) : Prop :=
  x.exec disk = (.ok a, disk')

namespace Step

variable {α β : Type} {disk disk' : FileTree}

theorem exec_bind (x : Step α) (f : α → Step β) (disk : FileTree) :
    (x >>= f).exec disk = match x.exec disk with
      | (.ok a, mid) => (f a).exec mid
      | (.error e, mid) => (.error e, mid) := by
  unfold exec
  simp only [ExceptT.run_bind, StateT.run_bind]
  rcases (x.run).run disk with ⟨r, mid⟩
  cases r <;> rfl

theorem ok_bind {x : Step α} {f : α → Step β} {b : β} :
    (x >>= f).Ok disk b disk' ↔ ∃ a mid, x.Ok disk a mid ∧ (f a).Ok mid b disk' := by
  unfold Ok
  rw [exec_bind]
  rcases x.exec disk with ⟨r, mid⟩
  cases r with
  | ok a => simp
  | error e => simp

@[simp] theorem ok_pure {a b : α} :
    (pure a : Step α).Ok disk b disk' ↔ a = b ∧ disk = disk' := by
  have hexec : (pure a : Step α).exec disk = (.ok a, disk) := rfl
  simp [Ok, hexec]

@[simp] theorem ok_throw {f : Fault} {b : α} : ¬ (throw f : Step α).Ok disk b disk' := by
  have hexec : (throw f : Step α).exec disk = (.error f, disk) := rfl
  simp [Ok, hexec]

@[simp] theorem ok_get {t : FileTree} :
    (get : Step FileTree).Ok disk t disk' ↔ disk = t ∧ disk = disk' := by
  have hexec : (get : Step FileTree).exec disk = (.ok disk, disk) := rfl
  simp [Ok, hexec]

@[simp] theorem ok_modify {f : FileTree → FileTree} {u : Unit} :
    (modify f : Step Unit).Ok disk u disk' ↔ f disk = disk' := by
  have hexec : (modify f : Step Unit).exec disk = (.ok (), f disk) := rfl
  simp [Ok, hexec]

@[simp] theorem ok_ofAnswer {x : Answer α} {a : α} :
    (ofAnswer x).Ok disk a disk' ↔ x = .ok a ∧ disk = disk' := by
  cases x with
  | ok b => simp [ofAnswer]
  | error f => simp [ofAnswer]

end Step

/-! ## The output folder -/

theorem not_mem_foldl_follow (names : List String) {found : List String} (h : ".." ∉ found) :
    ".." ∉ names.foldl Path.follow found := by
  induction names generalizing found with
  | nil => exact h
  | cons name names ih =>
    rw [List.foldl_cons]
    apply ih
    unfold Path.follow
    split
    · exact fun hmem => h (List.dropLast_subset found hmem)
    · rename_i hname
      simp only [beq_iff_eq] at hname
      simpa [h] using Ne.symm hname

namespace Request

/-- The names of the output folder only lead down. -/
theorem not_mem_place (r : Request) {name : String} (h : name ≠ "..") : ".." ∉ r.place name := by
  have hfolder : ".." ∉ r.folder := not_mem_foldl_follow r.output (by simp)
  simpa [place, hfolder] using Ne.symm h

theorem bytes?_put_self (r : Request) {name : String} (h : name ≠ "..") (disk : FileTree)
    (text : String) :
    (disk.put (r.place name) (.ofText text)).bytes? (r.place name) = some text.toUTF8.toList := by
  rw [FileTree.bytes?, FileTree.lookup_put_self (r.not_mem_place h)]
  rfl

theorem bytes?_put_of_ne (r : Request) {name other : String} (hne : name ≠ other)
    (h : other ≠ "..") (disk new : FileTree) :
    (disk.put (r.place name) new).bytes? (r.place other) = disk.bytes? (r.place other) := by
  rw [FileTree.bytes?, place, place, FileTree.lookup_put_sibling (r.not_mem_place h) hne]
  rfl

theorem ok_write {r : Request} {name text : String} {disk disk' : FileTree} {u : Unit} :
    (r.write name text).Ok disk u disk' ↔ disk.put (r.place name) (.ofText text) = disk' := by
  rw [write, Step.ok_modify]

/-- Making the output folder changes no file in it. -/
theorem bytes?_of_ok_makeOutput {r : Request} {disk disk' : FileTree} {u : Unit}
    (hok : r.makeOutput.Ok disk u disk') {name : String} (h : name ≠ "..") :
    disk'.bytes? (r.place name) = disk.bytes? (r.place name) := by
  rw [makeOutput, Step.ok_modify] at hok
  subst hok
  split
  · rfl
  · rename_i hnone
    rw [FileTree.bytes?, place, FileTree.lookup_put_empty (r.not_mem_place h) hnone]
    rfl

end Request

/-! ## The steps of a build -/

variable {r : Request} {data data' : Entries} {disk disk' : FileTree} {u : Unit}

/-- Comparing with the last build changes no file. Old data is compared if it can be read. -/
theorem ok_compareWithLast (h : (compareWithLast r data).Ok disk data' disk') :
    disk' = disk ∧ match disk.bytes? (r.place "data.json") with
      | none => data' = data
      | some bytes => match readJson bytes with
        | .ok old => compare old data = .ok data'
        | .error _ => data' = data := by
  rw [compareWithLast, Step.ok_bind] at h
  obtain ⟨t, mid, hget, h⟩ := h
  rw [Step.ok_get] at hget
  obtain ⟨rfl, rfl⟩ := hget
  cases hbytes : disk.bytes? (r.place "data.json") with
  | none =>
    simp only [hbytes, Step.ok_pure] at h
    exact ⟨h.2.symm, h.1.symm⟩
  | some bytes =>
    cases hold : readJson bytes with
    | ok old =>
      simp only [hbytes, hold, Step.ok_ofAnswer] at h ⊢
      exact ⟨h.2.symm, h.1⟩
    | error f =>
      simp only [hbytes, hold] at h ⊢
      split at h
      · rw [Step.ok_pure] at h
        exact ⟨h.2.symm, h.1.symm⟩
      · exact absurd h Step.ok_throw

/-- The log is read without changing it. -/
theorem ok_readLog {log : List Value} (h : (readLog r).Ok disk log disk') :
    disk' = disk ∧ match disk.bytes? (r.place "changelog.json") with
      | none => log = []
      | some bytes => match readJson bytes with
        | .ok old => old = .list log
        | .error _ => log = [] := by
  rw [readLog, Step.ok_bind] at h
  obtain ⟨t, mid, hget, h⟩ := h
  rw [Step.ok_get] at hget
  obtain ⟨rfl, rfl⟩ := hget
  cases hbytes : disk.bytes? (r.place "changelog.json") with
  | none =>
    simp only [hbytes, Step.ok_pure] at h
    exact ⟨h.2.symm, h.1.symm⟩
  | some bytes =>
    cases hold : readJson bytes with
    | ok old =>
      simp only [hbytes, hold] at h ⊢
      split at h
      · rename_i entries hentries
        rw [Step.ok_pure] at h
        exact ⟨h.2.symm, by rw [Except.ok.inj hentries, h.1]⟩
      · exact absurd h Step.ok_throw
      · rename_i hf
        cases hf
    | error f =>
      simp only [hbytes, hold, Step.ok_pure] at h ⊢
      exact ⟨h.2.symm, h.1.symm⟩

/-- A report in the data; a missing one is empty. -/
def reportIn (data : Entries) (name : String) : Value := (data.getText? name).getD (.list [])

/-- The log gets an entry if there is something to log, and is left alone otherwise. -/
theorem ok_logChanges (h : (logChanges r data).Ok disk u disk') :
    if (reportIn data "changes").isTrue || (reportIn data "breaking_changes").isTrue then
      ∃ log text, (readLog r).Ok disk log disk
        ∧ Json.wide.text? (.list (log
            ++ [logEntry r.time (reportIn data "changes") (reportIn data "breaking_changes")]))
          = some text
        ∧ disk' = disk.put (r.place "changelog.json") (.ofText text)
    else disk' = disk := by
  have hlist : ∀ name, (data.getText? name).getD (.list []) = reportIn data name := fun _ => rfl
  simp only [logChanges, hlist] at h
  split at h
  · rename_i htrue
    rw [if_pos htrue]
    rw [Step.ok_bind] at h
    obtain ⟨log, mid, hlog, h⟩ := h
    obtain ⟨rfl, -⟩ := ok_readLog hlog
    split at h
    · rename_i text htext
      exact ⟨log, text, hlog, htext, (Request.ok_write.mp h).symm⟩
    · exact absurd h Step.ok_throw
  · rename_i hfalse
    rw [if_neg hfalse]
    rw [Step.ok_pure] at h
    exact h.2.symm

/-- Embedding adds at most its numbers to the data, and at most its own file. -/
theorem ok_embed (h : (embed r data).Ok disk data' disk') :
    (data' = data ∨ ∃ v, data' = data.putText "_embedding_stats" v)
      ∧ (disk' = disk ∨ ∃ t, disk' = disk.put (r.place "embeddings.json") t) := by
  unfold embed at h
  split at h
  · rw [Step.ok_pure] at h
    exact ⟨.inl h.1.symm, .inl h.2.symm⟩
  · simp only [Step.ok_bind, Step.ok_ofAnswer] at h
    obtain ⟨model, mid, ⟨-, rfl⟩, chunks, mid, ⟨-, rfl⟩, h⟩ := h
    split at h
    · rw [Step.ok_pure] at h
      exact ⟨.inl h.1.symm, .inl h.2.symm⟩
    · split at h
      · simp only [Step.ok_bind, Step.ok_ofAnswer, Step.ok_pure] at h
        obtain ⟨-, mid, ⟨-, rfl⟩, rfl, rfl⟩ := h
        exact ⟨.inl rfl, .inl rfl⟩
      · split at h
        · exact absurd h Step.ok_throw
        · simp only [Step.ok_bind, Step.ok_ofAnswer, Step.ok_pure, Request.ok_write] at h
          obtain ⟨-, mid, rfl, dimensions, mid, ⟨-, rfl⟩, rfl, rfl⟩ := h
          exact ⟨.inr ⟨_, rfl⟩, .inr ⟨_, rfl⟩⟩

/-- The data is written as it is, without the kinds that the project defines. -/
theorem ok_writeData (h : (writeData r data).Ok disk u disk') :
    ∃ text, Json.wide.text? (writtenData data) = some text
      ∧ disk' = disk.put (r.place "data.json") (.ofText text) := by
  unfold writeData at h
  split at h
  · rename_i text htext
    exact ⟨text, htext, (Request.ok_write.mp h).symm⟩
  · rw [Step.ok_bind] at h
    obtain ⟨-, mid, -, h⟩ := h
    exact absurd h Step.ok_throw

/-! ## The build -/

/-- A build that succeeds has documented the project, compared it with the last build, logged
    the changes, embedded and written the data, one after the other. -/
theorem run_ok (h : run r disk = (.ok data, disk')) :
    ∃ start compared made logged embedded plan,
      document r.settings r.render disk r.source = .ok start
      ∧ r.makeOutput.Ok disk () made
      ∧ (compareWithLast r start).Ok made compared made
      ∧ (logChanges r compared).Ok made () logged
      ∧ (embed r compared).Ok logged data embedded
      ∧ Site.Plan.ofData (.dict data) = .ok plan
      ∧ (writeData r data).Ok (embedded.put (r.place "app.py") (.ofText plan.program)) ()
          disk' := by
  have hok : (build r).Ok disk data disk' := h
  simp only [build, Step.ok_bind, Step.ok_get, Step.ok_ofAnswer, Step.ok_pure] at hok
  obtain ⟨_, _, ⟨rfl, rfl⟩, start, _, ⟨hstart, rfl⟩, ⟨⟩, made, hmade, compared, mid, hcompared,
    ⟨⟩, logged, hlogged, _, embedded, hembedded, plan, _, ⟨hplan, rfl⟩, ⟨⟩, _, happ,
    ⟨⟩, _, hdata, rfl, rfl⟩ := hok
  obtain ⟨rfl, -⟩ := ok_compareWithLast hcompared
  rw [Request.ok_write] at happ
  subst happ
  exact ⟨start, compared, mid, logged, embedded, plan, hstart, hmade, hcompared, hlogged,
    hembedded, hplan, hdata⟩

end Docsmith.Build
