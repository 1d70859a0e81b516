import RepeatScan.Output.Document
import RepeatScan.Proofs.Json.Tree
import RepeatScan.Proofs.Retrieval

set_option autoImplicit false

/-! Reports read back from JSON. Main statement: the text of a report is read as the report, whether it
stands alone without blanks or as a member of the document that a run ends with, and the report that
was read is written as the same text again. -/

namespace RepeatScan

/-- A report whose positions are words of 64 bits and whose line numbers are words of 32 bits. -/
def Report.InWords (report : Report) : Prop :=
  ∀ group ∈ report.groups, ∀ occurrence ∈ group.occurrences,
    occurrence.start < UInt64.size ∧ occurrence.stop < UInt64.size ∧
      occurrence.lines.first < UInt32.size ∧ occurrence.lines.last < UInt32.size

instance Report.InWords.decidable (report : Report) : Decidable report.InWords :=
  inferInstanceAs (Decidable (∀ _ ∈ _, ∀ _ ∈ _, _))

namespace Json

namespace Node

/-! ### Simple values and lists -/

theorem readNat_number {limit number : Nat} (small : number < limit) (fits : limit ≤ UInt64.size) :
    (Value.number number).node.readNat limit = .ok number := by
  have within : number < UInt64.size := Nat.lt_of_lt_of_le small fits
  have read : (Numeral.ofNat number).natural? = some number := by
    simp [Numeral.natural?, Numeral.ofNat, Text.digitsFrom_decimal, within]
  simp [Value.node, readNat, read, small]

theorem readText_string (content : Text) :
    (Value.string content).node.readText = .ok content := rfl

theorem readFingerprint_display (fingerprint : Fingerprint) :
    (Value.string fingerprint.display).node.readFingerprint = .ok fingerprint := by
  simp only [readFingerprint, readText_string, bind, Except.bind, fingerprint.ofText_display,
    Except.mapError]

theorem readList_array {α : Type} {write : α → Value} {read : Node → Except ReadError α}
    {items : List α} (each : ∀ item ∈ items, read (write item).node = .ok item) :
    (Value.array (items.map write)).node.readList read = .ok items := by
  have values : (items.map fun item => (write item).node).mapM read = .ok items :=
    mapM_map_eq_pure each
  rw [Value.node, Value.itemNodes_eq_map, List.map_map, readList, Function.comp_def, values]
  rfl

/-! ### Records -/

theorem skip_node (value : Value) : value.node.skip = .ok () := by
  cases value with
  | null => rfl
  | bool _ => rfl
  | number _ => rfl
  | string _ => rfl
  | array _ => rfl
  | object _ => rfl

/-- The members of an object name the fields of a record in their order, perhaps with other names in
between, and reading them leads from one record to another. -/
inductive Fills {α : Type} (rule : RecordRule) (all : List (Field α)) :
    List (Field α) → List (Option Text × Node) → α → α → Prop
  | nil {value : α} : Fills rule all [] [] value value
  | cons {field : Field α} {node : Node} {fields : List (Field α)}
      {members : List (Option Text × Node)} {value last : α} (next : α)
      (read : field.read node value = .ok next)
      (later : Fills rule all fields members next last) :
      Fills rule all (field :: fields) ((some field.name, node) :: members) value last
  | skip {name : Text} {fields : List (Field α)} {members : List (Option Text × Node)}
      {value last : α} (open_ : rule.closed = false) (other : name ∉ all.map (·.name))
      (written : Value) (later : Fills rule all fields members value last) :
      Fills rule all fields ((some name, written.node) :: members) value last

/-- Members that name fields not given before are read one after the other. -/
theorem readMembers_of_fills {α : Type} {rule : RecordRule} {all : List (Field α)}
    (distinct : (all.map (·.name)).Nodup) {fields : List (Field α)}
    {members : List (Option Text × Node)} {value last : α}
    (fills : Fills rule all fields members value last) {given : List Text}
    (listed : fields.Sublist all) (fresh : ∀ field ∈ fields, field.name ∉ given) :
    readMembers rule all members given value =
      .ok ((fields.map (·.name)).reverse ++ given, last) := by
  induction fills generalizing given with
  | nil => rfl
  | @cons field node fields members value last next read later ih =>
      have found : all.find? (fun other => other.name = field.name) = some field :=
        find?_key distinct (listed.subset List.mem_cons_self)
      have apart := distinct.sublist (listed.map (·.name))
      rw [List.map_cons, List.nodup_cons] at apart
      have unread := fresh field List.mem_cons_self
      have rest := @ih (field.name :: given) ((List.sublist_cons_self field fields).trans listed) (by
        intro other member named
        rcases List.mem_cons.mp named with same | before
        · exact apart.1 (List.mem_map.mpr ⟨other, member, same⟩)
        · exact fresh other (List.mem_cons_of_mem field member) before)
      rw [readMembers, found]
      simp [unread, read, rest, bind, Except.bind]
  | @skip name fields members value last open_ other written later ih =>
      have unknown : all.find? (fun field => field.name = name) = none := by
        rw [List.find?_eq_none]
        intro field member
        simpa using fun same => other (List.mem_map.mpr ⟨field, member, same⟩)
      rw [readMembers, unknown]
      simp [open_, skip_node, ih listed fresh, bind, Except.bind]

/-- An object that names each field of a record once, in order, is read as the record. -/
theorem readRecord_object {α : Type} {rule : RecordRule} {fields : List (Field α)}
    (distinct : (fields.map (·.name)).Nodup) {members : List (Option Text × Node)} {start last : α}
    (fills : Fills rule fields fields members start last) :
    readRecord rule fields start (.object members none) = .ok last := by
  have read : readMembers rule fields members [] start =
      .ok ((fields.map (·.name)).reverse ++ [], last) :=
    readMembers_of_fills distinct fills (List.Sublist.refl _) (by simp)
  have named : (fields.all fun field =>
      decide (field.name ∈ (fields.map (·.name)).reverse ++ [])) = true := by
    rw [List.all_eq_true]
    intro field member
    simpa using ⟨field, member, rfl⟩
  rw [readRecord, read]
  simp only [bind, Except.bind, named, checkEnding]
  simp [pure, Except.pure]

theorem readLineRange_node {range : LineRange} (first : range.first < UInt32.size)
    (last : range.last < UInt32.size) : (ofLineRange range).node.readLineRange = .ok range := by
  have fits : UInt32.size ≤ UInt64.size := by decide
  refine readRecord_object (by decide) (.cons ⟨range.first, 0⟩ ?_ (.cons _ ?_ .nil))
  · simp [readNat_number first fits, LineRange.zero]
  · simp [readNat_number last fits]

theorem readOccurrence_node {occurrence : Occurrence} (start : occurrence.start < UInt64.size)
    (stop : occurrence.stop < UInt64.size) (first : occurrence.lines.first < UInt32.size)
    (last : occurrence.lines.last < UInt32.size) :
    (ofOccurrence occurrence).node.readOccurrence = .ok occurrence := by
  refine readRecord_object (by decide)
    (.cons ⟨occurrence.source, 0, 0, .zero⟩ ?_
      (.cons ⟨occurrence.source, occurrence.start, 0, .zero⟩ ?_
        (.cons ⟨occurrence.source, occurrence.start, occurrence.stop, .zero⟩ ?_
          (.cons _ ?_ .nil))))
  · simp [readText_string]
  · simp [readNat_number start (Nat.le_refl _)]
  · simp [readNat_number stop (Nat.le_refl _)]
  · simp [readLineRange_node first last]

theorem readGroup_node {group : Group}
    (read : ∀ occurrence ∈ group.occurrences,
      (ofOccurrence occurrence).node.readOccurrence = .ok occurrence) :
    (ofGroup group).node.readGroup = .ok group := by
  refine readRecord_object (by decide) (.cons ⟨group.fingerprint, []⟩ ?_ (.cons _ ?_ .nil))
  · simp [readFingerprint_display]
  · simp [readList_array read]

theorem readReport_node {report : Report} (inWords : report.InWords) :
    (ofReport report).node.readReport = .ok report := by
  have groups : ∀ group ∈ report.groups, (ofGroup group).node.readGroup = .ok group := by
    intro group listed
    apply readGroup_node
    intro occurrence member
    obtain ⟨start, stop, first, last⟩ := inWords group listed occurrence member
    exact readOccurrence_node start stop first last
  refine readRecord_object (by decide) (.cons _ ?_ .nil)
  simp [readList_array groups]

/-! ### Documents -/

def documentFields : List (Field Report) :=
  [⟨"report".toList, fun node _ => node.readReport⟩]

/-- Reads the report of a document and passes over its other members. -/
def readDocument : Node → Except ReadError Report :=
  readRecord complete documentFields .empty

theorem readDocument_node {outcome : Outcome} (inWords : outcome.report.InWords) :
    (ofOutcome outcome).node.readDocument = .ok outcome.report :=
  readRecord_object (by decide)
    (.cons _ (readReport_node inWords) (.skip rfl (by decide) _ (.skip rfl (by decide) _ .nil)))

end Node

/-- Whatever is in a report, its text without blanks is read as the report, and so is the member of the
document of an outcome. Written again, the report that was read gives the same text. -/
theorem decode_ofReport {outcome : Outcome} (inWords : outcome.report.InWords) :
    decode Node.readReport (ofReport outcome.report).compact = .ok outcome.report ∧
      decode Node.readDocument (document outcome) = .ok outcome.report ∧
      (decode Node.readReport (ofReport outcome.report).compact).map
          (fun read => (ofReport read).compact) = .ok (ofReport outcome.report).compact ∧
      (decode Node.readDocument (document outcome)).map
          (fun read => document { outcome with report := read }) = .ok (document outcome) := by
  have alone : decode Node.readReport (ofReport outcome.report).compact = .ok outcome.report := by
    simp [decode, Node.ofText_compact, Node.readReport_node inWords, bind, Except.bind, pure,
      Except.pure]
  have within : decode Node.readDocument (document outcome) = .ok outcome.report := by
    have read : Node.ofText ((ofOutcome outcome).pretty ++ ['\n']) =
        ((ofOutcome outcome).node, []) := Node.ofText_pretty _ (by simp [isBlank])
    simp [decode, document, read, Node.readDocument_node inWords, bind, Except.bind, pure,
      Except.pure]
  refine ⟨alone, within, ?_, ?_⟩
  · rw [alone]
    rfl
  · rw [within]
    rfl

/-- A source with characters that are escaped, at the largest positions, and a group without
occurrences. -/
def escapedReport : Report :=
  ⟨[ ⟨⟨42⟩, [⟨"a\"\\\n\x01".toList, 0, 18446744073709551615, ⟨1, 4294967295⟩⟩]⟩, ⟨⟨0⟩, []⟩ ]⟩

theorem decode_ofReport_escaped :
    escapedReport.InWords ∧
      decode Node.readReport (ofReport escapedReport).compact = .ok escapedReport ∧
      decode Node.readDocument (document ⟨escapedReport, [], .zero⟩) = .ok escapedReport := by
  have inWords : escapedReport.InWords := by decide
  have read := decode_ofReport (show (Outcome.mk escapedReport [] .zero).report.InWords from inWords)
  exact ⟨inWords, read.1, read.2.1⟩

end Json

end RepeatScan
