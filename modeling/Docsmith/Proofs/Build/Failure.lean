-- SUMMARY: What a build that fails leaves in the output folder.
import Docsmith.Proofs.Answer
import Docsmith.Proofs.Build.History

/-!
# Failed builds

A build first surveys the project: it documents it, compares it with the last
build and logs what changed. Then it finishes: it embeds, plans the site and
writes the program and the data. A failed survey changes no file. When the survey
has succeeded, the log stays written whatever comes after it, so a build that
fails in its second part has logged its changes and logs them again when it is
repeated. The program and the data are written last; they change only if the data
itself cannot be written.
-/

namespace Docsmith.Build

/-! ## Steps that fail -/

/-- The step fails and leaves the files in a state. -/
def Step.Fails (x : Step α) (disk : FileTree) (f : Fault) (disk' : FileTree) : Prop :=
  x.exec disk = (.error f, disk')

namespace Step

variable {α β : Type} {disk disk' : FileTree} {f : Fault}

theorem fails_bind {x : Step α} {g : α → Step β} :
    (x >>= g).Fails disk f disk'
      ↔ x.Fails disk f disk' ∨ ∃ a mid, x.Ok disk a mid ∧ (g a).Fails mid f disk' := by
  unfold Fails Ok
  rw [exec_bind]
  rcases x.exec disk with ⟨r, mid⟩
  cases r with
  | ok a => simp
  | error e => simp

@[simp] theorem fails_pure {a : α} : ¬ (pure a : Step α).Fails disk f disk' := by
  have hexec : (pure a : Step α).exec disk = (.ok a, disk) := rfl
  simp [Fails, hexec]

@[simp] theorem fails_throw {e : Fault} :
    (throw e : Step α).Fails disk f disk' ↔ e = f ∧ disk = disk' := by
  have hexec : (throw e : Step α).exec disk = (.error e, disk) := rfl
  simp [Fails, hexec]

@[simp] theorem fails_get : ¬ (get : Step FileTree).Fails disk f disk' := by
  have hexec : (get : Step FileTree).exec disk = (.ok disk, disk) := rfl
  simp [Fails, hexec]

@[simp] theorem fails_modify {g : FileTree → FileTree} :
    ¬ (modify g : Step Unit).Fails disk f disk' := by
  have hexec : (modify g : Step Unit).exec disk = (.ok (), g disk) := rfl
  simp [Fails, hexec]

@[simp] theorem fails_ofAnswer {x : Answer α} :
    (ofAnswer x).Fails disk f disk' ↔ x = .error f ∧ disk = disk' := by
  cases x with
  | ok b => simp [ofAnswer]
  | error e => simp [ofAnswer]

end Step

@[simp] theorem Request.fails_write {r : Request} {name text : String} {disk disk' : FileTree}
    {f : Fault} : ¬ (r.write name text).Fails disk f disk' := by
  rw [write]
  exact Step.fails_modify

@[simp] theorem Request.fails_makeOutput {r : Request} {disk disk' : FileTree} {f : Fault} :
    ¬ r.makeOutput.Fails disk f disk' := by
  rw [makeOutput]
  exact Step.fails_modify

/-! ## The steps of a build -/

variable {r : Request} {data : Entries} {disk disk' : FileTree} {f : Fault}

theorem fails_compareWithLast (h : (compareWithLast r data).Fails disk f disk') : disk' = disk := by
  rw [compareWithLast, Step.fails_bind] at h
  obtain h | ⟨t, mid, hget, h⟩ := h
  · exact absurd h Step.fails_get
  · obtain ⟨rfl, rfl⟩ := Step.ok_get.mp hget
    split at h
    · exact absurd h Step.fails_pure
    · split at h
      · exact (Step.fails_ofAnswer.mp h).2.symm
      · split at h
        · exact absurd h Step.fails_pure
        · exact (Step.fails_throw.mp h).2.symm

theorem fails_readLog (h : (readLog r).Fails disk f disk') : disk' = disk := by
  rw [readLog, Step.fails_bind] at h
  obtain h | ⟨t, mid, hget, h⟩ := h
  · exact absurd h Step.fails_get
  · obtain ⟨rfl, rfl⟩ := Step.ok_get.mp hget
    split at h
    · exact absurd h Step.fails_pure
    · split at h
      · exact absurd h Step.fails_pure
      · exact (Step.fails_throw.mp h).2.symm
      · exact absurd h Step.fails_pure

/-- Logging that fails writes nothing. -/
theorem fails_logChanges (h : (logChanges r data).Fails disk f disk') : disk' = disk := by
  unfold logChanges at h
  dsimp only at h
  split at h
  · rw [Step.fails_bind] at h
    obtain h | ⟨log, mid, hlog, h⟩ := h
    · exact fails_readLog h
    · obtain ⟨rfl, -⟩ := ok_readLog hlog
      split at h
      · exact absurd h Request.fails_write
      · exact (Step.fails_throw.mp h).2.symm
  · exact absurd h Step.fails_pure

/-- Embedding that fails writes at most its own file. -/
theorem fails_embed (h : (embed r data).Fails disk f disk') :
    disk' = disk ∨ ∃ t, disk' = disk.put (r.place "embeddings.json") t := by
  unfold embed at h
  split at h
  · exact absurd h Step.fails_pure
  · simp only [Step.fails_bind, Step.fails_ofAnswer, Step.ok_ofAnswer] at h
    obtain ⟨-, rfl⟩ | ⟨model, mid, ⟨-, rfl⟩, ⟨-, rfl⟩ | ⟨chunks, mid, ⟨-, rfl⟩, h⟩⟩ := h
    · exact .inl rfl
    · exact .inl rfl
    · split at h
      · exact absurd h Step.fails_pure
      · split at h
        · simp only [Step.fails_bind, Step.fails_ofAnswer, Step.fails_pure] at h
          obtain ⟨-, rfl⟩ | ⟨_, _, -, ⟨⟩⟩ := h
          exact .inl rfl
        · split at h
          · exact .inl (Step.fails_throw.mp h).2.symm
          · simp only [Step.fails_bind, Step.fails_ofAnswer, Step.fails_pure, Request.fails_write,
              Request.ok_write, false_or, and_false, exists_false, or_false] at h
            obtain ⟨-, mid, rfl, -, rfl⟩ := h
            exact .inr ⟨_, rfl⟩

/-- Data that cannot be written leaves an unfinished file. -/
theorem fails_writeData (h : (writeData r data).Fails disk f disk') :
    Json.wide.text? (writtenData data) = none
      ∧ disk' = disk.put (r.place "data.json") (.ofText "\x7b") := by
  unfold writeData at h
  split at h
  · exact absurd h Request.fails_write
  · rename_i htext
    rw [Step.fails_bind] at h
    obtain h | ⟨u, mid, hwrite, h⟩ := h
    · exact absurd h Request.fails_write
    · obtain ⟨-, rfl⟩ := Step.fails_throw.mp h
      exact ⟨htext, (Request.ok_write.mp hwrite).symm⟩

/-! ## The two parts of a build -/

/-- The first part of a build: the documentation, compared with the last build and logged. -/
def survey (r : Request) : Step Entries := do
  let data ← Step.ofAnswer (document r.settings r.render (← get) r.source)
  r.makeOutput
  let data ← compareWithLast r data
  logChanges r data
  return data

/-- The second part of a build: the embeddings, the program and the data. -/
def finish (r : Request) (data : Entries) : Step Entries := do
  let data ← embed r data
  let plan ← Step.ofAnswer (Site.Plan.ofData (.dict data))
  r.write "app.py" plan.program
  writeData r data
  return data

theorem build_eq_survey_finish (r : Request) : build r = survey r >>= finish r := by
  simp [build, survey, finish]

/-- A file of the output folder is what it was. -/
def Kept (r : Request) (disk disk' : FileTree) (name : String) : Prop :=
  disk'.bytes? (r.place name) = disk.bytes? (r.place name)

/-- A failed survey changes no file. -/
theorem fails_survey (h : (survey r).Fails disk f disk') {name : String} (hname : name ≠ "..") :
    Kept r disk disk' name := by
  simp only [survey, Step.fails_bind, Step.fails_get, Step.ok_get, Step.fails_ofAnswer,
    Step.ok_ofAnswer, Step.fails_pure, Request.fails_makeOutput, false_or, and_false, exists_false,
    or_false] at h
  obtain ⟨_, _, ⟨rfl, rfl⟩, ⟨-, rfl⟩ | ⟨start, _, ⟨-, rfl⟩, u, made, hmade, hrest⟩⟩ := h
  · rfl
  · have hkept := Request.bytes?_of_ok_makeOutput hmade hname
    obtain hcompare | ⟨compared, mid, hcompared, hlog⟩ := hrest
    · obtain rfl := fails_compareWithLast hcompare
      exact hkept
    · obtain ⟨rfl, -⟩ := ok_compareWithLast hcompared
      obtain rfl := fails_logChanges hlog
      exact hkept

/-- The log has what it had, and the entry of the build if there is something to log. -/
def Logged (r : Request) (compared : Entries) (disk disk' : FileTree) : Prop :=
  if newEntries r compared = [] then Kept r disk disk' "changelog.json"
  else ∃ text, Json.wide.text? (.list ((changelog r.folder disk).getD [] ++ newEntries r compared))
      = some text ∧ disk'.bytes? (r.place "changelog.json") = some text.toUTF8.toList

theorem Logged.of_kept {compared : Entries} {logged : FileTree}
    (h : Logged r compared disk logged) (hkept : Kept r logged disk' "changelog.json") :
    Logged r compared disk disk' := by
  unfold Logged Kept at *
  rw [hkept]
  exact h

/-- A survey that succeeds logs the changes and touches no other file. -/
theorem ok_survey {compared : Entries} (h : (survey r).Ok disk compared disk') :
    Logged r compared disk disk'
      ∧ ∀ name, name ≠ ".." → name ≠ "changelog.json" → Kept r disk disk' name := by
  simp only [survey, Step.ok_bind, Step.ok_get, Step.ok_ofAnswer, Step.ok_pure] at h
  obtain ⟨_, _, ⟨rfl, rfl⟩, start, _, ⟨-, rfl⟩, _, made, hmade, compared, mid, hcompared, _, logged,
    hlogged, rfl, rfl⟩ := h
  obtain ⟨rfl, -⟩ := ok_compareWithLast hcompared
  have hmadeLog : changelog r.folder mid = changelog r.folder disk :=
    changelog_congr (Request.bytes?_of_ok_makeOutput hmade (by decide))
  have hlogged := ok_logChanges hlogged
  unfold Logged newEntries
  split at hlogged
  · rename_i htrue
    obtain ⟨log, text, hread, htext, rfl⟩ := hlogged
    rw [eq_getD_of_ok_readLog hread, hmadeLog] at htext
    rw [if_pos htrue, if_neg (by simp)]
    refine ⟨⟨text, htext, r.bytes?_put_self (by decide) mid text⟩, fun name hname hne => ?_⟩
    exact (r.bytes?_put_of_ne (Ne.symm hne) hname mid _).trans
      (Request.bytes?_of_ok_makeOutput hmade hname)
  · rename_i hfalse
    subst hlogged
    rw [if_neg hfalse, if_pos rfl]
    exact ⟨Request.bytes?_of_ok_makeOutput hmade (by decide),
      fun name hname _ => Request.bytes?_of_ok_makeOutput hmade hname⟩

/-- The program is written, and the data is cut off because it cannot be written. -/
def CutOff (r : Request) (data : Entries) (disk' : FileTree) : Prop :=
  Json.wide.text? (writtenData data) = none
    ∧ (∃ plan, Site.Plan.ofData (.dict data) = .ok plan
      ∧ disk'.bytes? (r.place "app.py") = some plan.program.toUTF8.toList)
    ∧ ∃ bytes, disk'.bytes? (r.place "data.json") = some bytes ∧ readJson bytes = .error .notJson

theorem readJson_cutOff : readJson "\x7b".toUTF8.toList = .error .notJson := by
  have hparse : (Json.parse? "\x7b").isNone = true := by
    decide +kernel
  rw [readJson, FileTree.fromUTF8?_toUTF8]
  simp only [Option.isNone_iff_eq_none.mp hparse]

theorem kept_of_embedded (h : disk' = disk ∨ ∃ t, disk' = disk.put (r.place "embeddings.json") t)
    (name : String) (hname : name ≠ "..") (hne : name ≠ "embeddings.json") :
    Kept r disk disk' name := by
  obtain rfl | ⟨t, rfl⟩ := h
  · rfl
  · exact r.bytes?_put_of_ne (Ne.symm hne) hname disk t

/-- A build that fails in its second part leaves the log alone. It leaves the program and the data
    alone too, unless the data cannot be written. -/
theorem fails_finish (h : (finish r data).Fails disk f disk') :
    Kept r disk disk' "changelog.json"
      ∧ ((Kept r disk disk' "app.py" ∧ Kept r disk disk' "data.json")
        ∨ ∃ full embedded, (embed r data).Ok disk full embedded ∧ CutOff r full disk') := by
  simp only [finish, Step.fails_bind, Step.fails_ofAnswer, Step.ok_ofAnswer, Step.fails_pure,
    Request.fails_write, Request.ok_write, false_or, and_false, exists_false, or_false] at h
  obtain hembed | ⟨full, embedded, hembed, hrest⟩ := h
  · have hkept := kept_of_embedded (fails_embed hembed)
    exact ⟨hkept _ (by decide) (by decide),
      .inl ⟨hkept _ (by decide) (by decide), hkept _ (by decide) (by decide)⟩⟩
  · have hkept := kept_of_embedded (ok_embed hembed).2
    obtain ⟨-, rfl⟩ | ⟨plan, mid, ⟨hplan, rfl⟩, _, _, rfl, hdata⟩ := hrest
    · exact ⟨hkept _ (by decide) (by decide),
        .inl ⟨hkept _ (by decide) (by decide), hkept _ (by decide) (by decide)⟩⟩
    · obtain ⟨htext, rfl⟩ := fails_writeData hdata
      constructor
      · rw [Kept, r.bytes?_put_of_ne (by decide) (by decide), r.bytes?_put_of_ne (by decide) (by decide)]
        exact hkept _ (by decide) (by decide)
      · refine .inr ⟨full, embedded, hembed, htext, ⟨plan, hplan, ?_⟩, ?_⟩
        · rw [r.bytes?_put_of_ne (by decide) (by decide)]
          exact r.bytes?_put_self (by decide) embedded plan.program
        · exact ⟨_, r.bytes?_put_self (by decide) _ _, readJson_cutOff⟩

/-- A request with colours for a theme, which is named after the title, and with a number as the
    title. -/
def numberedTitle : Request :=
  { bareRequest with settings := ⟨[(.str "title", .int 2024),
      (.str "theme", .object [("dark", .object [("--bg", .str "#000")])])], none⟩ }

/-- An empty project whose last build had a function. -/
def lostFunction : FileTree := .folder [("src", .folder []), ("out", .folder [("data.json",
  .ofText "\x7b\"functions\":[\x7b\"full_path\":\"m.f\",\"name\":\"f\"\x7d]\x7d")])]

theorem run_numberedTitle : ∃ f disk', run numberedTitle lostFunction = (.error f, disk')
    ∧ ¬ Kept numberedTitle lostFunction disk' "changelog.json" := by
  have hrun : ¬ HasAnswer (run numberedTitle lostFunction).1
      ∧ (run numberedTitle lostFunction).2.bytes? (numberedTitle.place "changelog.json")
        ≠ lostFunction.bytes? (numberedTitle.place "changelog.json") := by
    decide +kernel
  obtain ⟨hfails, hbytes⟩ := hrun
  rcases hanswer : run numberedTitle lostFunction with ⟨answer, disk'⟩
  rw [hanswer] at hfails hbytes
  cases answer with
  | ok data => exact absurd (hasAnswer_ok data) hfails
  | error f => exact ⟨f, disk', rfl, hbytes⟩

end Docsmith.Build
