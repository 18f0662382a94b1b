-- SUMMARY: The log of a sequence of builds tells exactly what changed from build to build.
import Docsmith.Proofs.Build.Data
import Docsmith.Proofs.Build.Run
import Docsmith.Proofs.Report.Changes

/-!
# Histories of builds

Builds into one folder follow each other, and anything but the two files in which
a build remembers may be edited between them. The data of the last build and the
log of changes are the memory: one build keeps what they say, so a whole history
does. The log has an entry for each build that differs from the one before it,
and replaying it leads from the paths of the first build to those of the last.
-/

namespace Docsmith.Build

open Json (readBack)
open Report

/-! ## Files that are written and read -/

theorem readJson_text {v : Value} {text : String} (h : Json.wide.text? v = some text) :
    readJson text.toUTF8.toList = .ok (readBack v) := by
  rw [readJson, FileTree.fromUTF8?_toUTF8]
  simp only [Json.parse?_text? h]

/-! ## What is remembered of the last build -/

/-- Data of an earlier build that can be compared like the data of the build. -/
structure StandsFor (old : Value) (data : Entries) : Prop where
  index : indexOf old = indexOf (.dict data)
  callables : callables old = callables (.dict data)

/-- The folder holds data that stands for the data of the last build, if there was one. -/
def Remembers (folder : List String) (disk : FileTree) : Option Entries → Prop
  | none => disk.bytes? (folder ++ ["data.json"]) = none
  | some data => IsCatalog data ∧ ∃ bytes old,
      disk.bytes? (folder ++ ["data.json"]) = some bytes ∧ readJson bytes = .ok old
        ∧ StandsFor old data

/-- The reports of a build are about the changes since another one; a first build has none. -/
def Reported (data : Entries) : Option Entries → Prop
  | none => reportIn data "changes" = .list [] ∧ reportIn data "breaking_changes" = .list []
  | some old => ∃ cs ds,
      changes (.dict old) (.dict data) = .ok cs
        ∧ reportIn data "changes" = .list (cs.map Change.data)
        ∧ signatureChanges (.dict old) (.dict data) = .ok ds
        ∧ reportIn data "breaking_changes" = .list (ds.map SignatureChange.data)

theorem changes_congr {old old' new new' : Value} (hold : indexOf old = indexOf old')
    (hnew : indexOf new = indexOf new') : changes old new = changes old' new' := by
  rw [changes, hold, hnew]
  rfl

theorem signatureChanges_congr {old old' new new' : Value} (hold : callables old = callables old')
    (hnew : callables new = callables new') :
    signatureChanges old new = signatureChanges old' new' := by
  rw [signatureChanges, hold, hnew]
  rfl

/-! ## Adding reports -/

theorem getText?_addReport_ne {name other : String} (h : name ≠ other) (data : Entries)
    (items : List Value) : (addReport data name items).getText? other = data.getText? other := by
  unfold addReport
  split
  · rfl
  · exact Entries.getText?_putText_ne h data _

theorem reportIn_addReport {data : Entries} {name : String} (h : data.getText? name = none)
    (items : List Value) : reportIn (addReport data name items) name = .list items := by
  unfold addReport reportIn
  split
  · rename_i hempty
    rw [h, List.isEmpty_iff.mp hempty]
    rfl
  · rw [Entries.getText?_putText_same]
    rfl

theorem isCatalog_addReport {data : Entries} (h : IsCatalog data) {name : String}
    (hname : name ∉ listNames) (items : List Value) : IsCatalog (addReport data name items) := by
  unfold addReport
  split
  · exact h
  · exact isCatalog_putText h hname _

theorem lists_addReport (name : String) (hname : name ∉ listNames) (data : Entries)
    (items : List Value) : ∀ other ∈ listNames,
      (addReport data name items).getText? other = data.getText? other := by
  intro other hother
  apply getText?_addReport_ne
  rintro rfl
  exact hname hother

/-- Fresh data, with reports on what changed since the data that the old data stands for. -/
theorem compare_ok {old : Value} {start last out : Entries} (hfresh : IsFresh start)
    (hlast : IsCatalog last) (hold : StandsFor old last) (h : compare old start = .ok out) :
    IsCatalog out ∧ Reported out (some last) := by
  obtain ⟨oi, hoi, hotext⟩ := indexOf_isTextIndex hlast
  obtain ⟨ni, hni, hntext⟩ := indexOf_isTextIndex hfresh.catalog
  obtain ⟨cs, hcs, -⟩ := changes_areChanges (hold.index.trans hoi) hni hotext hntext
  obtain ⟨oc, hoc, hoctext⟩ := callables_isText hlast
  obtain ⟨nc, hnc, -⟩ := callables_isText hfresh.catalog
  obtain ⟨ds, hds, -⟩ := signatureChanges_ok (hold.callables.trans hoc) hnc hoctext.keys
  -- the first report changes no list, so the second one is about the same functions
  have hlists₁ := lists_addReport "changes" (by decide) start (cs.map Change.data)
  have hcallables : callables (.dict (addReport start "changes" (cs.map Change.data)))
      = callables (.dict start) :=
    callables_congr hlists₁
  rw [compare, hcs] at h
  simp only [signatureChanges_congr rfl hcallables, hds] at h
  cases h
  have hlists₂ := lists_addReport "breaking_changes" (by decide)
    (addReport start "changes" (cs.map Change.data)) (ds.map SignatureChange.data)
  have hlists : ∀ name ∈ listNames, start.getText? name = _ :=
    fun name hname => ((hlists₂ name hname).trans (hlists₁ name hname)).symm
  refine ⟨?_, cs, ds, ?_, ?_, ?_, ?_⟩
  · exact isCatalog_addReport (isCatalog_addReport hfresh.catalog (by decide) _) (by decide) _
  · rw [← hcs]
    exact changes_congr hold.index.symm (indexOf_congr hlists).symm
  · rw [reportIn, getText?_addReport_ne (by decide)]
    exact reportIn_addReport hfresh.changes _
  · rw [← hds]
    exact signatureChanges_congr hold.callables.symm (callables_congr hlists).symm
  · apply reportIn_addReport
    rw [getText?_addReport_ne (by decide)]
    exact hfresh.breaking

/-! ## The data of one build -/

variable {r : Request} {data start out : Entries} {last : Option Entries} {disk disk' : FileTree}

theorem compareWithLast_reported (hfresh : IsFresh start) (hlast : Remembers r.folder disk last)
    (h : (compareWithLast r start).Ok disk out disk') : IsCatalog out ∧ Reported out last := by
  obtain ⟨-, h⟩ := ok_compareWithLast h
  cases last with
  | none =>
    have hnone : disk.bytes? (r.place "data.json") = none := hlast
    rw [hnone] at h
    dsimp only at h
    subst h
    refine ⟨hfresh.catalog, ?_, ?_⟩
    · rw [reportIn, hfresh.changes]
      rfl
    · rw [reportIn, hfresh.breaking]
      rfl
  | some last =>
    obtain ⟨hcatalog, bytes, old, hbytes, hold, hstands⟩ := hlast
    have hsome : disk.bytes? (r.place "data.json") = some bytes := hbytes
    rw [hsome] at h
    simp only [hold] at h
    exact compare_ok hfresh hcatalog hstands h

/-- The reports stay what they are when anything else is put into the data. -/
theorem Reported.putText (h : Reported data last) {name : String}
    (hname : name ∉ "changes" :: "breaking_changes" :: listNames) (v : Value) :
    Reported (data.putText name v) last := by
  simp only [List.mem_cons, not_or] at hname
  have hlists : ∀ other ∈ listNames, (data.putText name v).getText? other
      = data.getText? other := by
    intro other hother
    apply Entries.getText?_putText_ne
    rintro rfl
    exact hname.2.2 hother
  have hchanges : reportIn (data.putText name v) "changes" = reportIn data "changes" := by
    rw [reportIn, Entries.getText?_putText_ne hname.1, reportIn]
  have hbreaking : reportIn (data.putText name v) "breaking_changes"
      = reportIn data "breaking_changes" := by
    rw [reportIn, Entries.getText?_putText_ne hname.2.1, reportIn]
  cases last with
  | none =>
    rw [Reported, hchanges, hbreaking]
    exact h
  | some old =>
    rw [Reported, changes_congr rfl (indexOf_congr hlists), hchanges,
      signatureChanges_congr rfl (callables_congr hlists), hbreaking]
    exact h

/-- Written data stands for the data when it is read. -/
theorem standsFor_readBack (h : IsCatalog data) : StandsFor (readBack (writtenData data)) data := by
  obtain ⟨written, hwritten, hcatalog, hlists⟩ := writtenData_shape h
  rw [hwritten]
  exact ⟨(indexOf_readBack hcatalog).trans (indexOf_congr hlists),
    (callables_readBack hcatalog).trans (callables_congr hlists)⟩

/-- A build reports the changes since the last one, and is remembered in its place. -/
theorem run_remembers (hlast : Remembers r.folder disk last) (h : run r disk = (.ok data, disk')) :
    IsCatalog data ∧ Reported data last ∧ Remembers r.folder disk' (some data) := by
  obtain ⟨start, compared, made, logged, embedded, plan, hstart, hmade, hcompared, -, hembed, -,
    hwrite⟩ := run_ok h
  have hmadeLast : Remembers r.folder made last := by
    have hbytes : made.bytes? (r.folder ++ ["data.json"])
        = disk.bytes? (r.folder ++ ["data.json"]) :=
      Request.bytes?_of_ok_makeOutput hmade (by decide)
    cases last with
    | none => exact hbytes.trans hlast
    | some last =>
      rw [Remembers, hbytes]
      exact hlast
  obtain ⟨hcatalog, hreported⟩ :=
    compareWithLast_reported (document_isFresh hstart) hmadeLast hcompared
  have hdata : IsCatalog data ∧ Reported data last := by
    obtain ⟨rfl | ⟨v, rfl⟩, -⟩ := ok_embed hembed
    · exact ⟨hcatalog, hreported⟩
    · exact ⟨isCatalog_putText hcatalog (by decide) v, hreported.putText (by decide) v⟩
  obtain ⟨text, htext, rfl⟩ := ok_writeData hwrite
  exact ⟨hdata.1, hdata.2, hdata.1, text.toUTF8.toList, readBack (writtenData data),
    r.bytes?_put_self (by decide) _ text, readJson_text htext, standsFor_readBack hdata.1⟩

/-! ## The log of one build -/

/-- The log in a folder; `none` if it cannot be read. -/
def changelog (folder : List String) (disk : FileTree) : Option (List Value) :=
  match disk.bytes? (folder ++ ["changelog.json"]) with
  | none => some []
  | some bytes => match readJson bytes with
    | .ok (.list entries) => some entries
    | _ => none

/-- What a build adds to the log. -/
def newEntries (r : Request) (data : Entries) : List Value :=
  if (reportIn data "changes").isTrue || (reportIn data "breaking_changes").isTrue then
    [logEntry r.time (reportIn data "changes") (reportIn data "breaking_changes")]
  else []

/-- A build reads the log as it is, and an unreadable one as empty. -/
theorem eq_getD_of_ok_readLog {log : List Value} (h : (readLog r).Ok disk log disk') :
    log = (changelog r.folder disk).getD [] := by
  obtain ⟨-, h⟩ := ok_readLog h
  rw [Request.place] at h
  unfold changelog
  cases hbytes : disk.bytes? (r.folder ++ ["changelog.json"]) with
  | none =>
    rw [hbytes] at h
    exact h
  | some bytes =>
    rw [hbytes] at h
    cases hread : readJson bytes with
    | ok old =>
      simp only [hread] at h ⊢
      subst h
      rfl
    | error f =>
      simp only [hread] at h ⊢
      exact h

theorem changelog_congr {folder : List String}
    (h : disk'.bytes? (folder ++ ["changelog.json"]) = disk.bytes? (folder ++ ["changelog.json"])) :
    changelog folder disk' = changelog folder disk := by
  rw [changelog, h, changelog]

/-- Logging adds to the log what there is to add. -/
theorem changelog_of_ok_logChanges {log : List Value} {u : Unit}
    (hlog : changelog r.folder disk = some log) (h : (logChanges r data).Ok disk u disk')
    (hback : ∀ e ∈ log ++ newEntries r data, readBack e = e) :
    changelog r.folder disk' = some (log ++ newEntries r data) := by
  have h := ok_logChanges h
  unfold newEntries at hback ⊢
  split at h
  · rename_i htrue
    rw [if_pos htrue] at hback ⊢
    obtain ⟨found, text, hread, htext, rfl⟩ := h
    rw [eq_getD_of_ok_readLog hread, hlog, Option.getD_some] at htext
    have hbytes : (disk.put (r.place "changelog.json") (.ofText text)).bytes?
        (r.folder ++ ["changelog.json"]) = some text.toUTF8.toList :=
      r.bytes?_put_self (by decide) disk text
    rw [changelog, hbytes]
    simp only [readJson_text htext, Json.readBack_list_eq_self hback]
  · rename_i hfalse
    rw [if_neg hfalse, List.append_nil]
    rw [h]
    exact hlog

theorem newEntries_putText {name : String} (hname : name ∉ ["changes", "breaking_changes"])
    (v : Value) : newEntries r (data.putText name v) = newEntries r data := by
  simp only [List.mem_cons, List.not_mem_nil, or_false, not_or] at hname
  unfold newEntries reportIn
  rw [Entries.getText?_putText_ne hname.1, Entries.getText?_putText_ne hname.2]

/-- After logging, a build touches the log no more. -/
theorem run_log {log : List Value} (hlog : changelog r.folder disk = some log)
    (hback : ∀ e ∈ log ++ newEntries r data, readBack e = e)
    (h : run r disk = (.ok data, disk')) :
    changelog r.folder disk' = some (log ++ newEntries r data) := by
  obtain ⟨start, compared, made, logged, embedded, plan, -, hmade, -, hlogged, hembed, -,
    hwrite⟩ := run_ok h
  obtain ⟨hdata, hembedded⟩ := ok_embed hembed
  have hentries : newEntries r compared = newEntries r data := by
    obtain rfl | ⟨v, rfl⟩ := hdata
    · rfl
    · exact (newEntries_putText (by decide) v).symm
  have hmadeLog : changelog r.folder made = some log := by
    rw [← hlog]
    exact changelog_congr (Request.bytes?_of_ok_makeOutput hmade (by decide))
  have hloggedLog : changelog r.folder logged = some (log ++ newEntries r data) := by
    rw [← hentries] at hback ⊢
    exact changelog_of_ok_logChanges hmadeLog hlogged hback
  rw [← hloggedLog]
  apply changelog_congr
  obtain ⟨text, -, rfl⟩ := ok_writeData hwrite
  have hother : ∀ name, name ≠ "changelog.json" → ∀ t u : FileTree,
      (t.put (r.place name) u).bytes? (r.folder ++ ["changelog.json"])
        = t.bytes? (r.folder ++ ["changelog.json"]) :=
    fun name hname t u => r.bytes?_put_of_ne hname (by decide) t u
  rw [hother "data.json" (by decide), hother "app.py" (by decide)]
  obtain rfl | ⟨t, rfl⟩ := hembedded
  · rfl
  · exact hother "embeddings.json" (by decide) logged t

/-! ## Histories -/

/-- A finished build. -/
structure Done where
  request : Request
  data : Entries

namespace Done

/-- The index of a build. -/
def index (b : Done) : Index :=
  match indexOf (.dict b.data) with
  | .ok index => index
  | .error _ => []

/-- The changes that a build reports. -/
def changes (b : Done) : Value := reportIn b.data "changes"

/-- The changes of signatures that a build reports. -/
def breaking (b : Done) : Value := reportIn b.data "breaking_changes"

open Classical in
/-- The entry of a build in the log: there is one if its index is not that of the build before
    it, or if signatures changed. -/
noncomputable def logged? (before b : Done) : Option Value :=
  if fingerprints before.index = fingerprints b.index ∧ b.breaking = .list [] then none
  else some (logEntry b.request.time b.changes b.breaking)

end Done

/-- The log of builds: an entry for each but the first that has one. -/
noncomputable def logOf (builds : List Done) : List Value :=
  (builds.zip builds.tail).filterMap fun p => p.1.logged? p.2

/-- Builds into a folder, one after the other, and the files afterwards. The folder is missing or
    empty at first. Between two builds all may be edited but the memory of the builds. -/
inductive History (folder : List String) : List Done → FileTree → Prop
  | start {disk : FileTree} (h : disk.lookup folder = none ∨ disk.lookup folder = some .empty) :
      History folder [] disk
  | edit {builds : List Done} {disk disk' : FileTree} (before : History folder builds disk)
      (h : ∀ name ∈ ["data.json", "changelog.json"],
        disk'.bytes? (folder ++ [name]) = disk.bytes? (folder ++ [name])) :
      History folder builds disk'
  | build {builds : List Done} {disk disk' : FileTree} {r : Request} {data : Entries}
      (before : History folder builds disk) (hfolder : r.folder = folder)
      (h : run r disk = (.ok data, disk')) : History folder (builds ++ [⟨r, data⟩]) disk'

/-- The paths that are present after the entries of a log, one after the other. -/
def replay (present : Finset String) (log : List Value) : Option (Finset String) :=
  log.foldlM (fun present entry => match entry.itemsOf "changes" with
    | .ok records => records.foldlM replayRecord present
    | .error _ => none) present

/-! ## The entry of one build -/

theorem Done.indexOf_data {b : Done} (h : IsCatalog b.data) :
    indexOf (.dict b.data) = .ok b.index ∧ IsTextIndex b.index := by
  obtain ⟨index, hindex, htext⟩ := indexOf_isTextIndex h
  have hb : b.index = index := by
    rw [Done.index, hindex]
  rw [hb]
  exact ⟨hindex, htext⟩

theorem itemsOf_logEntry (time : String) (records : List Value) (breaking : Value) :
    (logEntry time (.list records) breaking).itemsOf "changes" = .ok records := by
  apply itemsOf_of_field
  unfold logEntry
  split <;> rfl

theorem readBack_logEntry (time : String) {changes breaking : Value}
    (hchanges : readBack changes = changes) (hbreaking : readBack breaking = breaking) :
    readBack (logEntry time changes breaking) = logEntry time changes breaking := by
  unfold logEntry
  split
  · refine Json.readBack_object_eq_self (by simp) ?_
    simp [readBack, hchanges, hbreaking]
  · refine Json.readBack_object_eq_self (by simp) ?_
    simp [readBack, hchanges]

variable {b c : Done}

/-- The reports of a build, as far as the log needs them. -/
theorem Reported.areChanges (hb : IsCatalog b.data) (hc : IsCatalog c.data)
    (h : Reported c.data (some b.data)) :
    ∃ cs, AreChanges b.index c.index cs ∧ c.changes = .list (cs.map Change.data)
      ∧ (cs = [] ↔ fingerprints b.index = fingerprints c.index)
      ∧ readBack c.changes = c.changes := by
  obtain ⟨cs, -, hcs, hchanges, -, -⟩ := h
  obtain ⟨hbindex, hbtext⟩ := Done.indexOf_data hb
  obtain ⟨hcindex, hctext⟩ := Done.indexOf_data hc
  obtain ⟨cs', hcs', hare⟩ := changes_areChanges hbindex hcindex hbtext hctext
  cases hcs.symm.trans hcs'
  refine ⟨cs, hare, hchanges, hare.eq_nil_iff hbtext hctext, ?_⟩
  rw [Done.changes, hchanges]
  exact hare.readBack_data hbtext hctext

theorem Reported.breaking_list (hb : IsCatalog b.data) (hc : IsCatalog c.data)
    (h : Reported c.data (some b.data)) :
    ∃ xs, c.breaking = .list xs ∧ readBack c.breaking = c.breaking := by
  obtain ⟨-, ds, -, -, hds, hbreaking⟩ := h
  obtain ⟨bc, hbc, hbtext⟩ := callables_isText hb
  obtain ⟨cc, hcc, hctext⟩ := callables_isText hc
  obtain ⟨ds', hds', hperm⟩ := signatureChanges_ok hbc hcc hbtext.keys
  cases hds.symm.trans hds'
  refine ⟨ds.map SignatureChange.data, hbreaking, ?_⟩
  rw [Done.breaking, hbreaking]
  exact readBack_signatureChanges hbtext hctext hperm

/-- The entry of a build is what it adds to the log. -/
theorem newEntries_eq_logged? (hb : IsCatalog b.data) (hc : IsCatalog c.data)
    (h : Reported c.data (some b.data)) :
    newEntries c.request c.data = (b.logged? c).toList := by
  obtain ⟨cs, -, hchanges, hnil, -⟩ := h.areChanges hb hc
  obtain ⟨xs, hxs, -⟩ := h.breaking_list hb hc
  have hsome : (c.changes.isTrue || c.breaking.isTrue) = true
      ↔ ¬ (fingerprints b.index = fingerprints c.index ∧ c.breaking = .list []) := by
    rw [← hnil, hchanges, hxs]
    cases cs <;> cases xs <;> simp [Value.isTrue]
  have hentries : newEntries c.request c.data = if c.changes.isTrue || c.breaking.isTrue then
      [logEntry c.request.time c.changes c.breaking] else [] := rfl
  rw [hentries, Done.logged?]
  by_cases hnone : fingerprints b.index = fingerprints c.index ∧ c.breaking = .list []
  · rw [if_pos hnone, if_neg fun htrue => hsome.mp htrue hnone]
    rfl
  · rw [if_neg hnone, if_pos (hsome.mpr hnone)]
    rfl

/-- The entry of a build is read back as it was written. -/
theorem readBack_logged? (hb : IsCatalog b.data) (hc : IsCatalog c.data)
    (h : Reported c.data (some b.data)) {e : Value} (he : b.logged? c = some e) :
    readBack e = e := by
  obtain ⟨-, -, -, -, hchanges⟩ := h.areChanges hb hc
  obtain ⟨-, -, hbreaking⟩ := h.breaking_list hb hc
  unfold Done.logged? at he
  split at he
  · cases he
  · cases he
    exact readBack_logEntry c.request.time hchanges hbreaking

/-- The entry of a build, or that it has none, leads from the paths of the build before it to its
    own. -/
theorem replay_logged? (hb : IsCatalog b.data) (hc : IsCatalog c.data)
    (h : Reported c.data (some b.data)) :
    replay (paths b.index) (b.logged? c).toList = some (paths c.index) := by
  obtain ⟨cs, hare, hchanges, hnil, -⟩ := h.areChanges hb hc
  have hreplay := hare.replay
  unfold Done.logged?
  split
  · rename_i hnone
    rw [hnil.mpr hnone.1] at hreplay
    exact hreplay
  · rw [hchanges]
    simp only [replay, Option.toList_some, List.foldlM_cons, List.foldlM_nil, itemsOf_logEntry,
      hreplay]
    rfl

/-! ## The log of a history -/

theorem zip_tail_concat (bs : List α) (b c : α) :
    (bs ++ [b] ++ [c]).zip (bs ++ [b] ++ [c]).tail
      = (bs ++ [b]).zip (bs ++ [b]).tail ++ [(b, c)] := by
  induction bs with
  | nil => rfl
  | cons a bs ih =>
    cases bs with
    | nil => rfl
    | cons d bs => simpa using ih

theorem logOf_concat (bs : List Done) (b c : Done) :
    logOf (bs ++ [b] ++ [c]) = logOf (bs ++ [b]) ++ (b.logged? c).toList := by
  rw [logOf, zip_tail_concat, List.filterMap_append, logOf]
  cases hentry : b.logged? c <;> simp [hentry]

theorem logOf_cons (b c : Done) (bs : List Done) :
    logOf (b :: c :: bs) = (b.logged? c).toList ++ logOf (c :: bs) := by
  cases hentry : b.logged? c <;> simp [logOf, hentry]

theorem replay_append (present : Finset String) (log more : List Value) :
    replay present (log ++ more) = (replay present log).bind (replay · more) := by
  rw [replay, List.foldlM_append]
  rfl

/-- Replaying the log leads through the paths of all builds. -/
theorem replay_logOf (first : Done) (rest : List Done)
    (hcatalogs : ∀ b ∈ first :: rest, IsCatalog b.data)
    (hreported : ∀ p ∈ (first :: rest).zip rest, Reported p.2.data (some p.1.data)) :
    replay (paths first.index) (logOf (first :: rest))
      = some (paths ((first :: rest).getLast (List.cons_ne_nil first rest)).index) := by
  induction rest generalizing first with
  | nil => rfl
  | cons c rest ih =>
    have hstep := replay_logged? (hcatalogs first (by simp)) (hcatalogs c (by simp))
      (hreported (first, c) (by simp))
    rw [logOf_cons, replay_append, hstep, Option.bind_some, List.getLast_cons (by simp)]
    exact ih c (fun b hb => hcatalogs b (List.mem_cons_of_mem first hb))
      (fun p hp => hreported p (List.mem_cons_of_mem _ hp))

/-- What a history leaves behind. -/
structure Told (folder : List String) (builds : List Done) (disk : FileTree) : Prop where
  catalogs : ∀ b ∈ builds, IsCatalog b.data
  reported : ∀ p ∈ builds.zip builds.tail, Reported p.2.data (some p.1.data)
  remembers : Remembers folder disk (builds.getLast?.map Done.data)
  log : changelog folder disk = some (logOf builds)
  readBack : ∀ e ∈ logOf builds, Json.readBack e = e

theorem told_start {folder : List String} {disk : FileTree}
    (h : disk.lookup folder = none ∨ disk.lookup folder = some .empty) : Told folder [] disk := by
  have hbytes : ∀ name, name ≠ ".." → disk.bytes? (folder ++ [name]) = none := by
    intro name hname
    rw [FileTree.bytes?, FileTree.lookup_append hname]
    obtain h | h := h <;> rw [h] <;> rfl
  refine ⟨by simp, by simp, hbytes "data.json" (by decide), ?_, by simp [logOf]⟩
  rw [changelog, hbytes "changelog.json" (by decide)]
  rfl

theorem Told.edit {folder : List String} {builds : List Done} {disk disk' : FileTree}
    (h : Told folder builds disk) (hdata : disk'.bytes? (folder ++ ["data.json"])
      = disk.bytes? (folder ++ ["data.json"]))
    (hlog : disk'.bytes? (folder ++ ["changelog.json"])
      = disk.bytes? (folder ++ ["changelog.json"])) : Told folder builds disk' := by
  refine ⟨h.catalogs, h.reported, ?_, (changelog_congr hlog).trans h.log, h.readBack⟩
  have hremembers := h.remembers
  cases hlast : builds.getLast?.map Done.data with
  | none =>
    rw [hlast] at hremembers
    exact hdata.trans hremembers
  | some last =>
    rw [hlast] at hremembers
    rw [Remembers, hdata]
    exact hremembers

theorem Told.build {builds : List Done} (h : Told r.folder builds disk)
    (hrun : run r disk = (.ok data, disk')) : Told r.folder (builds ++ [⟨r, data⟩]) disk' := by
  obtain ⟨hcatalog, hreported, hremembers⟩ := run_remembers h.remembers hrun
  have hcatalogs : ∀ b ∈ builds ++ [⟨r, data⟩], IsCatalog b.data := by
    simp only [List.forall_mem_append, List.forall_mem_singleton]
    exact ⟨h.catalogs, hcatalog⟩
  have hlast : Remembers r.folder disk' ((builds ++ [Done.mk r data]).getLast?.map Done.data) := by
    rw [List.getLast?_concat]
    exact hremembers
  obtain rfl | ⟨bs, b, rfl⟩ := builds.eq_nil_or_concat
  · have hnone : newEntries r data = [] := by
      rw [newEntries, hreported.1, hreported.2]
      rfl
    have hlog := run_log h.log (by simp [hnone, logOf]) hrun
    rw [hnone] at hlog
    exact ⟨hcatalogs, by simp, hlast, hlog, by simp [logOf]⟩
  · rw [List.concat_eq_append] at *
    rw [List.getLast?_concat] at hreported
    have hb : IsCatalog b.data := h.catalogs b (by simp)
    have hentries : newEntries r data = (b.logged? ⟨r, data⟩).toList :=
      newEntries_eq_logged? (c := ⟨r, data⟩) hb hcatalog hreported
    have hback : ∀ e ∈ logOf (bs ++ [b] ++ [⟨r, data⟩]), Json.readBack e = e := by
      rw [logOf_concat]
      simp only [List.forall_mem_append, Option.mem_toList]
      exact ⟨h.readBack, fun e he => readBack_logged? hb hcatalog hreported he⟩
    refine ⟨hcatalogs, ?_, hlast, ?_, hback⟩
    · rw [zip_tail_concat]
      simp only [List.forall_mem_append, List.forall_mem_singleton]
      exact ⟨h.reported, hreported⟩
    · rw [logOf_concat] at hback ⊢
      rw [← hentries] at hback ⊢
      exact run_log h.log hback hrun

theorem History.told {folder : List String} {builds : List Done} {disk : FileTree}
    (h : History folder builds disk) : Told folder builds disk := by
  induction h with
  | start h => exact told_start h
  | edit _ h ih => exact ih.edit (h "data.json" (by simp)) (h "changelog.json" (by simp))
  | build _ hfolder h ih =>
    subst hfolder
    exact ih.build h

/-- After any history of builds, each build has an index, whose paths are texts that stand once.
    Each build but the first reports exactly the changes since the build before it. The log holds,
    in order, the entries of the builds whose index is not that of the build before, or whose
    signatures changed, and no others. Replaying it from the paths of the first build never adds
    a path that is present, never removes one that is not, and ends with those of the last. -/
theorem changelog_of_history {folder : List String} {builds : List Done} {disk : FileTree}
    (h : History folder builds disk) :
    (∀ b ∈ builds, indexOf (.dict b.data) = .ok b.index ∧ Keyed.HasTextKeys b.index)
      ∧ (∀ p ∈ builds.zip builds.tail, Reported p.2.data (some p.1.data))
      ∧ changelog folder disk = some (logOf builds)
      ∧ ∀ first last, builds.head? = some first → builds.getLast? = some last →
        replay (paths first.index) (logOf builds) = some (paths last.index) := by
  have htold := h.told
  refine ⟨fun b hb => ?_, htold.reported, htold.log, fun first last hfirst hlast => ?_⟩
  · obtain ⟨hindex, htext⟩ := Done.indexOf_data (htold.catalogs b hb)
    exact ⟨hindex, htext.keys⟩
  · obtain ⟨rest, rfl⟩ := List.head?_eq_some_iff.mp hfirst
    rw [replay_logOf first rest htold.catalogs htold.reported]
    rw [List.getLast?_eq_some_getLast (List.cons_ne_nil first rest), Option.some.injEq] at hlast
    rw [hlast]

/-- A request without settings. -/
def bareRequest : Request where
  source := Path.ofString "src"
  output := ["out"]
  settings := ⟨[], none⟩

/-- What a build of an empty project leaves, with a first function added to the project. -/
def firstFunction : FileTree :=
  ((run bareRequest .empty).2).put ["src", "m.py"] (.ofText "def f(a): 0")

theorem run_eq_of_paths {disk : FileTree} {found : Finset String}
    (h : (run r disk).1.toOption.map (fun data => paths (Done.mk r data).index) = some found) :
    ∃ b : Done, b.request = r ∧ run r disk = (.ok b.data, (run r disk).2)
      ∧ paths b.index = found := by
  obtain ⟨data, hdata, hpaths⟩ := Option.map_eq_some_iff.mp h
  rcases hrun : run r disk with ⟨answer, disk'⟩
  rw [hrun] at hdata
  cases answer with
  | ok found =>
    cases hdata
    exact ⟨⟨r, data⟩, rfl, rfl, hpaths⟩
  | error f => cases hdata

/-- A function that is added between two builds is logged. -/
theorem changelog_of_first_function :
    ∃ first second disk, History ["out"] [first, second] disk
      ∧ paths first.index = ∅ ∧ paths second.index = {"m.f"}
      ∧ changelog ["out"] disk = some (logOf [first, second])
      ∧ replay ∅ (logOf [first, second]) = some {"m.f"} := by
  have hfirst : (run bareRequest .empty).1.toOption.map
      (fun data => paths (Done.mk bareRequest data).index) = some ∅ := by
    decide +kernel
  have hsecond : (run bareRequest firstFunction).1.toOption.map
      (fun data => paths (Done.mk bareRequest data).index) = some {"m.f"} := by
    decide +kernel
  obtain ⟨⟨_, first⟩, rfl, hrun₁, hpaths₁⟩ := run_eq_of_paths hfirst
  obtain ⟨⟨_, second⟩, rfl, hrun₂, hpaths₂⟩ := run_eq_of_paths hsecond
  have hstart : History ["out"] [] FileTree.empty := .start (.inl rfl)
  have hedited : History ["out"] [⟨bareRequest, first⟩] firstFunction := by
    refine (hstart.build rfl hrun₁).edit fun name hname => ?_
    have hdown : ".." ∉ ["out", name] := by
      revert hname
      simp only [List.mem_cons, List.not_mem_nil, or_false]
      rintro (rfl | rfl) <;> decide
    rw [FileTree.bytes?, List.singleton_append, FileTree.lookup_cons hdown, firstFunction,
      FileTree.entry?_put_of_ne (by decide), ← FileTree.lookup_cons hdown]
    rfl
  have hdone : History ["out"] [⟨bareRequest, first⟩, ⟨bareRequest, second⟩] _ :=
    hedited.build rfl hrun₂
  obtain ⟨-, -, hlog, hreplay⟩ := changelog_of_history hdone
  have hreplay := hreplay ⟨bareRequest, first⟩ ⟨bareRequest, second⟩ rfl rfl
  rw [hpaths₁, hpaths₂] at hreplay
  exact ⟨_, _, _, hdone, hpaths₁, hpaths₂, hlog, hreplay⟩

end Docsmith.Build
