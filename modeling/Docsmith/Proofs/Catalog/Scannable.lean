-- SUMMARY: Which projects can be scanned.
import Docsmith.Catalog.Directory
import Docsmith.Proofs.Catalog.Scan
import Docsmith.Proofs.Docstring.Overlay
import Docsmith.Proofs.Source.Denotation

/-!
# Projects that can be scanned

A file that is no program has an empty record, so it does not stop a scan. A file
that is a program can: if metadata is not a literal that denotes a value, if
responses in it cannot be read, or if a part of a definition has no canonical
text. Nothing else stops the scan of a folder, and every file that is found in it
has one record. A source file that is scanned by itself never has one, because
it has no path below itself.
-/

namespace Docsmith

open Source

/-! ## Metadata -/

namespace Decorator

/-- The arguments of the first decorator that gives metadata. -/
def docArguments : List Expr → List Keyword
  | [] => []
  | .call func _ keywords :: ds => if isDoc func then keywords else docArguments ds
  | _ :: ds => docArguments ds

/-- A named argument has a readable literal; mappings to copy are passed over. -/
def isReadableArgument : Keyword → Bool
  | .mk (some _) value => value.isReadable
  | .mk none _ => true

theorem metadataOf_eq (ds : List Expr) : metadataOf ds = argumentsFrom [] (docArguments ds) := by
  fun_induction metadataOf ds with
  | case1 => rfl
  | case2 func args keywords ds hdoc => rw [docArguments, if_pos hdoc]
  | case3 func args keywords ds hdoc ih => rw [docArguments, if_neg hdoc, ih]
  | case4 d ds hcall ih => rw [docArguments.eq_3 d ds hcall, ih]

theorem hasAnswer_argumentsFrom (found : Entries) (keywords : List Keyword) :
    HasAnswer (argumentsFrom found keywords) ↔ ∀ k ∈ keywords, isReadableArgument k = true := by
  induction keywords generalizing found with
  | nil => simp [argumentsFrom]
  | cons k keywords ih =>
    rw [List.forall_mem_cons]
    obtain ⟨_ | name, value⟩ := k
    · rw [argumentsFrom, ih]
      exact (and_iff_right rfl).symm
    · rw [argumentsFrom]
      refine (hasAnswer_bind_iff_and fun v => ih _).trans ?_
      exact and_congr_left' value.hasAnswer_value

theorem hasAnswer_metadata (f : FunctionDef) :
    HasAnswer (metadata f) ↔ ∀ k ∈ docArguments f.decorators, isReadableArgument k = true := by
  rw [metadata, metadataOf_eq, hasAnswer_argumentsFrom]

theorem hasAnswer_endpointFrom? (before : List String) {ds : List Expr}
    (h : ∀ d ∈ ds, HasAnswer d.decoratorName) : HasAnswer (endpointFrom? before ds) := by
  induction ds generalizing before with
  | nil => simp [endpointFrom?]
  | cons d ds ih =>
    obtain ⟨⟨name, hname⟩, hds⟩ := List.forall_mem_cons.mp h
    rw [endpointFrom?, hasAnswer_bind]
    refine ⟨name, hname, ?_⟩
    split
    · exact hasAnswer_pure _
    · exact ih _ hds

end Decorator

/-! ## Definitions -/

theorem hasAnswer_printing {α : Type} {r : Except PrintFault α} :
    HasAnswer (printing r) ↔ HasAnswer r :=
  exists_congr fun _ => printing_eq_ok

/-- Everything about a function can be documented: its metadata can be read, and its parts have
    canonical texts. -/
structure IsDocumentable (f : FunctionDef) : Prop where
  literals : ∀ k ∈ Decorator.docArguments f.decorators, Decorator.isReadableArgument k = true
  responses : ∀ info, Decorator.metadata f = .ok info →
    ∀ v ∈ info.getText? "responses", Docstring.ReadsResponses v
  decorators : ∀ e ∈ f.decorators, HasAnswer e.decoratorName
  signature : HasAnswer f.signature
  signatureText : HasAnswer f.signatureText
  statements : HasAnswer f.statementTexts

theorem Scan.hasAnswer_docstring (s : Scan) (f : FunctionDef) (info : Entries) :
    HasAnswer (s.docstring f info) ↔ HasAnswer (Decorator.endpoint? f)
      ∧ ∀ v ∈ info.getText? "responses", Docstring.ReadsResponses v :=
  (hasAnswer_bind_iff_and fun _ => Docstring.hasAnswer_overlay).trans
    (and_congr_left' hasAnswer_printing)

theorem Scan.hasAnswer_routine (s : Scan) (f : FunctionDef) :
    HasAnswer (s.routine f) ↔ IsDocumentable f := by
  constructor
  · intro h
    simp only [Scan.routine, hasAnswer_bind] at h
    obtain ⟨names, hnames, info, hinfo, docstring, hdocstring, signature, hsignature, text, htext,
      statements, hstatements, -⟩ := h
    refine ⟨(Decorator.hasAnswer_metadata f).mp ⟨info, hinfo⟩, ?_, ?_, ?_, ?_, ?_⟩
    · intro other hother
      obtain rfl := Except.ok.inj (hinfo.symm.trans hother)
      exact ((s.hasAnswer_docstring f info).mp ⟨docstring, hdocstring⟩).2
    · exact hasAnswer_mapM.mp (hasAnswer_printing.mp ⟨names, hnames⟩)
    · exact hasAnswer_printing.mp ⟨signature, hsignature⟩
    · exact hasAnswer_printing.mp ⟨text, htext⟩
    · exact hasAnswer_printing.mp ⟨statements, hstatements⟩
  · intro h
    obtain ⟨names, hnames⟩ := hasAnswer_printing.mpr (hasAnswer_mapM.mpr h.decorators)
    obtain ⟨info, hinfo⟩ := (Decorator.hasAnswer_metadata f).mpr h.literals
    obtain ⟨docstring, hdocstring⟩ := (s.hasAnswer_docstring f info).mpr
      ⟨Decorator.hasAnswer_endpointFrom? [] h.decorators, h.responses info hinfo⟩
    obtain ⟨signature, hsignature⟩ := hasAnswer_printing.mpr h.signature
    obtain ⟨text, htext⟩ := hasAnswer_printing.mpr h.signatureText
    obtain ⟨statements, hstatements⟩ := hasAnswer_printing.mpr h.statements
    obtain ⟨body, hbody⟩ := hasAnswer_printing.mpr
      (hasAnswer_bind_pure.mpr h.statements : HasAnswer f.bodyText)
    simp only [Scan.routine, hasAnswer_bind]
    exact ⟨names, hnames, info, hinfo, docstring, hdocstring, signature, hsignature, text, htext,
      statements, hstatements, body, hbody, hasAnswer_pure _⟩

/-- Everything about a class and its methods can be documented. -/
structure IsDocumentableClass (c : ClassDef) : Prop where
  bases : ∀ e ∈ c.bases, HasAnswer e.shownName
  decorators : ∀ e ∈ c.decorators, HasAnswer e.decoratorName
  methods : ∀ f ∈ functionsOf c.body, IsDocumentable f
  signatureText : HasAnswer c.signatureText

theorem Scan.hasAnswer_functionDoc (s : Scan) (f : FunctionDef) :
    HasAnswer (s.functionDoc f) ↔ IsDocumentable f :=
  hasAnswer_bind_pure.trans (s.hasAnswer_routine f)

theorem Scan.hasAnswer_methodDoc (s : Scan) (f : FunctionDef) :
    HasAnswer (s.methodDoc f) ↔ IsDocumentable f :=
  hasAnswer_bind_pure.trans (s.hasAnswer_routine f)

theorem Scan.hasAnswer_classDoc (s : Scan) (c : ClassDef) :
    HasAnswer (s.classDoc c) ↔ IsDocumentableClass c := by
  have hsteps : HasAnswer (s.classDoc c) ↔ HasAnswer (printing (c.bases.mapM Expr.shownName))
      ∧ HasAnswer (printing (c.decorators.mapM Expr.decoratorName))
      ∧ HasAnswer ((functionsOf c.body).mapM s.methodDoc)
      ∧ HasAnswer (printing c.signatureText) :=
    hasAnswer_bind_iff_and fun _ => hasAnswer_bind_iff_and fun _ =>
      hasAnswer_bind_iff_and fun _ => hasAnswer_bind_pure
  simp only [hasAnswer_printing, hasAnswer_mapM, s.hasAnswer_methodDoc] at hsteps
  rw [hsteps]
  exact ⟨fun ⟨hbases, hdecorators, hmethods, htext⟩ => ⟨hbases, hdecorators, hmethods, htext⟩,
    fun h => ⟨h.bases, h.decorators, h.methods, h.signatureText⟩⟩

/-- Every class and every function of a body can be documented. -/
def IsDocumentableBody (body : List Stmt) : Prop :=
  (∀ c ∈ classesOf body, IsDocumentableClass c) ∧ ∀ f ∈ functionsOf body, IsDocumentable f

theorem Scan.hasAnswer_definitions (s : Scan) (body : List Stmt) :
    HasAnswer (s.definitions body) ↔ IsDocumentableBody body := by
  have hclasses : HasAnswer ((classesOf body).mapM s.classDoc)
      ↔ ∀ c ∈ classesOf body, IsDocumentableClass c := by
    simp only [hasAnswer_mapM, s.hasAnswer_classDoc]
  have hfunctions : HasAnswer ((functionsOf body).mapM s.functionDoc)
      ↔ ∀ f ∈ functionsOf body, IsDocumentable f := by
    simp only [hasAnswer_mapM, s.hasAnswer_functionDoc]
  rw [IsDocumentableBody, ← hclasses, ← hfunctions]
  constructor
  · rintro ⟨ds, hds⟩
    obtain ⟨hcs, hfs⟩ := Scan.definitions_eq_ok.mp hds
    exact ⟨⟨_, hcs⟩, _, hfs⟩
  · rintro ⟨⟨cs, hcs⟩, fs, hfs⟩
    exact ⟨⟨cs, fs⟩, Scan.definitions_eq_ok.mpr ⟨hcs, hfs⟩⟩

/-! ## Files -/

theorem afterParts?_eq_nil_iff (bs ps : List String) :
    Path.afterParts? bs ps = some [] ↔ ps = bs := by
  fun_induction Path.afterParts? bs ps with
  | case1 ps => simp
  | case2 b bs => simp
  | case3 b bs p ps hbp ih =>
    rw [ih, List.cons.injEq, beq_iff_eq.mp hbp]
    simp
  | case4 b bs p ps hbp =>
    have hne : b ≠ p := by simpa using hbp
    simp [hne.symm]

theorem relativeTo?_eq_nil_iff (file base : Path) : file.relativeTo? base = some [] ↔ file = base := by
  obtain ⟨root, parts⟩ := file
  obtain ⟨root', parts'⟩ := base
  rw [Path.relativeTo?]
  split
  · rename_i hroot
    obtain rfl : root = root' := beq_iff_eq.mp hroot
    simp [afterParts?_eq_nil_iff]
  · rename_i hroot
    have hne : root ≠ root' := by simpa using hroot
    simp [hne]

/-- Every file but the base itself has a module path. -/
theorem hasAnswer_modulePath (file base : Path) : HasAnswer (modulePath file base) ↔ file ≠ base := by
  rw [ne_eq, ← relativeTo?_eq_nil_iff, modulePath]
  cases hparts : file.relativeTo? base with
  | none => simp
  | some parts =>
    cases hlast : parts.getLast? with
    | none => simp [List.getLast?_eq_none_iff.mp hlast]
    | some last =>
      have hne : parts ≠ [] := by
        rintro rfl
        cases hlast
      simp only [hlast, Option.some.injEq, hne, not_false_eq_true, iff_true]
      split <;> exact hasAnswer_ok _

/-- The text of a file does not stop a scan: it holds no null character, and if it is a program,
    then its definitions can be documented. -/
def IsScannable (text : String) : Prop :=
  parse text ≠ .error .nulByte ∧ ∀ body, parse text = .ok body → IsDocumentableBody body

theorem hasAnswer_scanModule (kinds : List CustomKind) (file base : Path) (bytes : List UInt8) :
    HasAnswer (scanModule kinds file base bytes) ↔ file ≠ base ∧ IsScannable (readText bytes) := by
  rw [← hasAnswer_modulePath file base]
  cases hparse : parse (readText bytes) with
  | ok body =>
    simp only [scanModule, IsScannable, hparse]
    refine hasAnswer_bind_iff_and fun path => ?_
    rw [hasAnswer_bind_pure, Scan.hasAnswer_definitions]
    simp
  | error why =>
    cases why with
    | nulByte => simp [scanModule, IsScannable, hparse, throw, throwThe, MonadExceptOf.throw]
    | _ =>
      simp only [scanModule, IsScannable, hparse]
      exact hasAnswer_bind_pure.trans (by simp)

/-! ## Projects -/

namespace FileTree

variable {enter : String → Bool} {f : Found}

theorem parts_ne_nil_of_mem_filesIn {before : List String} {es : List (String × FileTree)}
    (h : f ∈ filesIn before es) : f.parts ≠ [] := by
  fun_induction filesIn before es with
  | case1 => cases h
  | case2 n bs es ih =>
    obtain rfl | h := List.mem_cons.mp h
    · simp
    · exact ih h
  | case3 n es' es ih => exact ih h

/-- A file that is found in a tree is below it. -/
theorem parts_ne_nil_of_mem_walk {before : List String} {t : FileTree}
    (h : f ∈ walk enter before t) : f.parts ≠ [] := by
  induction before, t using walk.induct _
    (fun before es => f ∈ walkAll enter before es → f.parts ≠ []) with
  | case1 => cases h
  | case2 before es ih =>
    rw [walk, List.mem_append] at h
    exact h.elim parts_ne_nil_of_mem_filesIn ih
  | case3 before hnil => cases hnil
  | case4 before n t es iht ihes hmem =>
    rw [walkAll, List.mem_append] at hmem
    obtain hmem | hmem := hmem
    · split at hmem
      · exact iht hmem
      · cases hmem
    · exact ihes hmem

end FileTree

/-- A file that is found is the root or below it. -/
theorem path_eq_root_iff {sought : Sought} {excludes : List String} {disk : FileTree} {root : Path}
    {f : ProjectFile} (h : f ∈ findFiles sought excludes disk root) :
    f.path = root ↔ ∃ bs, disk.lookup root.parts = some (.file bs) := by
  unfold findFiles at h
  split at h
  · cases h
  · rename_i bs hlookup
    split at h
    · obtain rfl := List.mem_singleton.mp h
      exact ⟨fun _ => ⟨bs, hlookup⟩, fun _ => rfl⟩
    · cases h
  · rename_i tree hfolder hlookup
    obtain ⟨g, hg, rfl⟩ := List.mem_map.mp h
    have hparts := FileTree.parts_ne_nil_of_mem_walk (List.mem_filter.mp hg).1
    have hne : root.join g.parts ≠ root := by
      intro heq
      exact hparts (by simpa [Path.join] using congrArg Path.parts heq)
    refine ⟨fun heq => absurd heq hne, fun ⟨bs, hbs⟩ => ?_⟩
    rw [hlookup] at hbs
    exact absurd (Option.some.inj hbs) (hfolder bs)

/-- A project with one file. Its metadata gives a range of statuses in place of a status. -/
def statusRange : FileTree := .folder [("src", .folder [("m.py",
  .ofText "@doc(responses=\x7b\"2xx\": \"ok\"\x7d)\ndef f():\n    pass\n")])]

end Docsmith
