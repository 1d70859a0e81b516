import Mathlib.Data.List.Forall2
import RepeatScan.Proofs.Detection.Run
import RepeatScan.Proofs.Text.Utf8

set_option autoImplicit false

/-! Sources given in bytes. Bytes give a text exactly if they are its encoding, and all other bytes are
refused together with the length of the longest beginning that encodes a text. So a run does not tell a
text from its encoding. -/

namespace RepeatScan.Detection

/-- The bytes are given, or they are the content of a file that can be read. -/
inductive Carries (files : FileTree) (bytes : ByteArray) : Origin → Prop
  | bytes : Carries files bytes (.bytes bytes)
  | path {path : Text} (read : files.read path = .ok bytes) : Carries files bytes (.path path)

/-- The text is given, or its encoding. -/
inductive Gives (files : FileTree) (text : Text) : Origin → Prop
  | text : Gives files text (.text text)
  | encoded {origin : Origin} (carries : Carries files (Utf8.encode text) origin) :
      Gives files text origin

/-- Two sources that are the same, or that give the same text under the same identifier. -/
inductive SameText (files : FileTree) : Source → Source → Prop
  | refl (source : Source) : SameText files source source
  | given {id text : Text} {left right : Origin} (first : Gives files text left)
      (second : Gives files text right) : SameText files ⟨id, left⟩ ⟨id, right⟩

variable {files : FileTree} {bytes : ByteArray} {origin : Origin} {text : Text}

theorem Carries.load_eq (carries : Carries files bytes origin) :
    origin.load files = (Utf8.decode bytes).mapError .undecodable := by
  cases carries with
  | bytes => rfl
  | path read =>
      simp only [Origin.load, read]
      rfl

theorem Carries.load_eq_ok_iff (carries : Carries files bytes origin) :
    origin.load files = .ok text ↔ bytes = Utf8.encode text := by
  rw [carries.load_eq, ← Utf8.decode_eq_ok_iff]
  cases Utf8.decode bytes with
  | ok found => simp [Except.mapError]
  | error valid => simp [Except.mapError]

theorem Carries.exists_load_eq_error (carries : Carries files bytes origin)
    (foreign : ∀ text, bytes ≠ Utf8.encode text) :
    ∃ valid, origin.load files = .error (.undecodable valid) ∧ valid < bytes.size ∧
      IsGreatest (Utf8.Prefixes bytes) valid := by
  cases read : Utf8.decode bytes with
  | ok text => exact absurd (Utf8.decode_eq_ok_iff.mp read) (foreign text)
  | error valid =>
      have loaded : origin.load files = .error (.undecodable valid) := by
        rw [carries.load_eq, read]
        rfl
      exact ⟨valid, loaded, Utf8.isGreatest_of_decode read⟩

theorem Gives.load_eq (gives : Gives files text origin) : origin.load files = .ok text := by
  cases gives with
  | text => rfl
  | encoded carries => exact carries.load_eq_ok_iff.mpr rfl

theorem Gives.scan_eq (gives : Gives files text origin) (mask : Mask) (size : Nat) (id : Text)
    (index : Nat) :
    scan files mask size ⟨id, origin⟩ index =
      .ok ⟨index, id, mask.tokenStream text,
        Fingerprint.windows size (mask.tokenStream text).tokens⟩ :=
  scan_eq_ok_iff.mpr ⟨text, gives.load_eq, rfl⟩

theorem SameText.scan_eq {source other : Source} (same : SameText files source other) (mask : Mask)
    (size index : Nat) : scan files mask size source index = scan files mask size other index := by
  cases same with
  | refl => rfl
  | given first second => rw [first.scan_eq, second.scan_eq]

variable {sources others : List Source}

theorem scanAll_eq_of_sameText (same : List.Forall₂ (SameText files) sources others) (mask : Mask)
    (size : Nat) : scanAll files mask size sources = scanAll files mask size others := by
  unfold scanAll
  -- Sources are numbered from any number on, so that those behind the first one are too.
  generalize 0 = index
  induction same generalizing index with
  | nil => rfl
  | cons first later ih =>
      rw [List.zipIdx_cons, List.zipIdx_cons, List.map_cons, List.map_cons, first.scan_eq mask size,
        ih]

/-- However windows are collected, a run over the same texts gives the same. -/
theorem runBy_eq_of_sameText [Platform] {surroundings : Surroundings}
    (same : List.Forall₂ (SameText surroundings.files) sources others)
    (collect : Settings → List ScannedSource → Tally) (settings : Settings) (cancelled : Bool) :
    runBy collect surroundings settings sources cancelled =
      runBy collect surroundings settings others cancelled := by
  have scanned (mask : Mask) := scanAll_eq_of_sameText same mask settings.windowSize
  rw [runBy_eq, runBy_eq]
  unfold conclusion readable
  simp only [scanned]

/-- Bytes are loaded exactly if they encode a text, and give the tokens of that text; other bytes are
refused with the length of the longest beginning that encodes a text, which is not all of them. Whether
texts are given as they are, as bytes or in files does not show in what a run gives. -/
theorem load_exact [Platform] (files : FileTree) :
    (∀ bytes origin, Carries files bytes origin →
        (∀ text, origin.load files = .ok text ↔ bytes = Utf8.encode text) ∧
          ((∀ text, bytes ≠ Utf8.encode text) →
            ∃ valid, origin.load files = .error (.undecodable valid) ∧ valid < bytes.size ∧
              IsGreatest (Utf8.Prefixes bytes) valid)) ∧
      (∀ text origin, Gives files text origin → ∀ mask size id index,
        scan files mask size ⟨id, origin⟩ index =
          .ok ⟨index, id, mask.tokenStream text,
            Fingerprint.windows size (mask.tokenStream text).tokens⟩) ∧
      ∀ sources others, List.Forall₂ (SameText files) sources others →
        ∀ sharedWorkers settings cancelled,
          run ⟨files, sharedWorkers⟩ settings sources cancelled =
            run ⟨files, sharedWorkers⟩ settings others cancelled := by
  constructor
  · intro bytes origin carries
    exact ⟨fun text => carries.load_eq_ok_iff, carries.exists_load_eq_error⟩
  · constructor
    · intro text origin gives mask size id index
      exact gives.scan_eq mask size id index
    · intro sources others same sharedWorkers settings cancelled
      exact runBy_eq_of_sameText same tally settings cancelled

/-- A text with a character of three bytes. -/
def priced : Text := "€ 1 2".toList

/-- Bytes that end within a character. -/
def brokenOff : ByteArray := [0x31, 0x32, 0xe2, 0x82].toByteArray

/-- A tree with a text in a file and broken bytes in another one. -/
def pricedFiles : FileTree :=
  ⟨.folder [(['a'], .file (Utf8.encode priced)), (['b'], .file brokenOff)], []⟩

/-- The text from somewhere, and the broken file. -/
def pricedSources (origin : Origin) : List Source :=
  [⟨['a'], origin⟩, .ofPath ['b']]

theorem load_exact_priced :
    Origin.load pricedFiles (.path ['b']) = .error (.undecodable 2) ∧
      IsGreatest (Utf8.Prefixes brokenOff) 2 ∧
      Origin.load pricedFiles (.path ['a']) = .ok priced ∧
      ∃ outcome, outcome.diagnostics = [⟨['b'], .undecodable 2⟩] ∧
        outcome.statistics.totalTokens = 3 ∧
        ∀ origin ∈ [.text priced, .bytes (Utf8.encode priced), .path ['a']],
          run ⟨pricedFiles, 1⟩ (singles true) (pricedSources origin) false = .ok outcome := by
  obtain ⟨loads, _, runs⟩ := load_exact pricedFiles
  have whole : Carries pricedFiles (Utf8.encode priced) (.path ['a']) := .path (by decide)
  have broken : Carries pricedFiles brokenOff (.path ['b']) := .path (by decide)
  have refused : Origin.load pricedFiles (.path ['b']) = .error (.undecodable 2) := by decide +kernel
  have foreign (text : Text) : brokenOff ≠ Utf8.encode text := by
    intro same
    have loaded := ((loads brokenOff _ broken).1 text).mpr same
    rw [refused] at loaded
    cases loaded
  obtain ⟨valid, loaded, _, greatest⟩ := (loads brokenOff _ broken).2 foreign
  rw [refused] at loaded
  cases loaded
  have same : ∀ origin ∈ [.text priced, .bytes (Utf8.encode priced), .path ['a']],
      List.Forall₂ (SameText pricedFiles) (pricedSources origin) (pricedSources (.text priced)) := by
    intro origin member
    have gives : Gives pricedFiles priced origin := by
      simp only [List.mem_cons, List.not_mem_nil, or_false] at member
      rcases member with rfl | rfl | rfl
      · exact .text
      · exact .encoded .bytes
      · exact .encoded whole
    exact .cons (.given gives .text) (.cons (.refl _) .nil)
  have loaded := ((loads _ _ whole).1 priced).mpr rfl
  refine ⟨refused, greatest, loaded, conclusion tally ⟨pricedFiles, 1⟩ (singles true) Mask.standard
    (pricedSources (.text priced)), ?_, ?_, ?_⟩
  · decide +kernel
  · decide +kernel
  · intro origin member
    have ran := runs _ _ (same origin member) 1 (singles true) false
    exact ran.trans (runBy_of_valid tally ⟨singles true, Mask.standard, rfl, rfl⟩)

end RepeatScan.Detection
