import ShadingGraph.Proofs.Settings.Number
import ShadingGraph.Proofs.Settings.Record
import ShadingGraph.Settings.Printer

/-!
# Settings are read back

Settings can be written with any of their fields, in any order, with or without a comma behind the last
field of a record, and with blanks and comments around all words (`Settings.words`, `Settings.Spaced`).
What is left out is read as its usual value (`Settings.kept`). The text that is written for settings has
all fields, so they are read back from it as they were.

Main statement: `Settings.read?_of_spaced`.
-/

namespace ShadingGraph

open Text Number

/-! ## Fields -/

/-- A field of a preset. -/
inductive OptimizerPreset.Field where
  | target
  | stage
deriving DecidableEq

/-- A field of settings. -/
inductive Settings.Field where
  | optimize
  | optimizer
deriving DecidableEq

/-! ## Presets -/

namespace OptimizerPreset

/-- The name of a field. -/
def Field.name : Field → String
  | target => "target"
  | stage => "stage"

theorem Field.isName : (f : Field) → Settings.IsName f.name
  | target | stage => by decide

/-- The words for the value of a field. -/
def fieldValue (p : OptimizerPreset) : Field → List String
  | .target => [String.ofList (Decimal.natDigits p.target.toNat)]
  | .stage => [p.stage.key]

/-- The words for a preset with the given fields in order. -/
def words (p : OptimizerPreset) (fields : List Field) (comma : Bool) : List String :=
  Settings.recordWords comma (fields.map fun f => f.name :: ":" :: p.fieldValue f)

/-- The preset with the usual values outside the given fields. -/
def kept (p : OptimizerPreset) (fields : List Field) : OptimizerPreset :=
  let usual : OptimizerPreset := {}
  { target := if .target ∈ fields then p.target else usual.target
    stage := if .stage ∈ fields then p.stage else usual.stage }

/-- What has been read of a preset after the given fields. -/
def readSoFar (p : OptimizerPreset) (fields : List Field) : Settings.PartialPreset where
  target? := if .target ∈ fields then some p.target else none
  stage? := if .stage ∈ fields then some p.stage else none

theorem complete_readSoFar (p : OptimizerPreset) (fields : List Field) :
    (p.readSoFar fields.reverse).complete = p.kept fields := by
  simp only [readSoFar, Settings.PartialPreset.complete, kept, List.mem_reverse]
  split <;> split <;> rfl

theorem isNumber_natDigits (n : Nat) : Settings.IsNumber (String.ofList (Decimal.natDigits n)) := by
  rw [Settings.IsNumber, String.toList_ofList]
  exact Decimal.isDigits_natDigits n

theorem target?_digits (n : UInt32) :
    Settings.target? (Settings.tokenOf (String.ofList (Decimal.natDigits n.toNat))) = some n := by
  rw [Settings.tokenOf_number (isNumber_natDigits _), String.toList_ofList]
  exact Settings.word32?_natDigits n

theorem stage?_key (stage : Stage) : Settings.stage? (Settings.tokenOf stage.key) = some stage := by
  cases stage <;> decide +kernel

theorem consumes_field (x : Settings.Extensions) (room : Nat) (p : OptimizerPreset)
    (done : List Field) (f : Field) (hf : f ∉ done) :
    Settings.Consumes (Settings.presetField x room f.name (p.readSoFar done)) (p.fieldValue f)
      (p.readSoFar (f :: done)) := by
  cases f with
  | target =>
    have hbefore : (p.readSoFar done).target? = none := if_neg hf
    have hafter : p.readSoFar (.target :: done) = { p.readSoFar done with target? := some p.target } := by
      simp [readSoFar]
    rw [hafter]
    intro ws ts h
    rw [Settings.presetField, if_pos (by decide), hbefore]
    exact Settings.consumes_single? _ rfl (target?_digits p.target) ws ts h
  | stage =>
    have hbefore : (p.readSoFar done).stage? = none := if_neg hf
    have hafter : p.readSoFar (.stage :: done) = { p.readSoFar done with stage? := some p.stage } := by
      simp [readSoFar]
    rw [hafter]
    intro ws ts h
    rw [Settings.presetField, if_neg (by decide), if_pos (by decide), hbefore]
    exact Settings.consumes_single? _ rfl (stage?_key p.stage) ws ts h

theorem joins_fieldValue (p : OptimizerPreset) (f : Field) :
    Settings.Joins (f.name :: ":" :: p.fieldValue f) := by
  refine Settings.joins_field f.isName ?_
  cases f with
  | target => exact Settings.joins_word (.inr (isNumber_natDigits _))
  | stage => exact Settings.joins_word (.inl (by cases p.stage <;> decide))

end OptimizerPreset

/-! ## Settings -/

namespace Settings

/-- The name of a field. -/
def Field.name : Field → String
  | optimize => "optimize"
  | optimizer => "optimizer"

theorem Field.isName : (f : Field) → IsName f.name
  | optimize | optimizer => by decide

/-- The words for the value of a field. -/
def fieldValue (s : Settings) (inner : List OptimizerPreset.Field) (innerComma : Bool) :
    Field → List String
  | .optimize => [boolText s.optimize]
  | .optimizer => s.optimizer.words inner innerComma

/-- The words for settings with the given fields in order. -/
def words (s : Settings) (outer : List Field) (inner : List OptimizerPreset.Field)
    (outerComma innerComma : Bool) : List String :=
  recordWords outerComma (outer.map fun f => f.name :: ":" :: s.fieldValue inner innerComma f)

/-- The settings with their usual values outside the given fields. -/
def kept (s : Settings) (outer : List Field) (inner : List OptimizerPreset.Field) : Settings :=
  let usual : Settings := {}
  { optimize := if .optimize ∈ outer then s.optimize else usual.optimize
    optimizer := if .optimizer ∈ outer then s.optimizer.kept inner else usual.optimizer }

/-- What has been read of settings after the given fields. -/
def readSoFar (s : Settings) (inner : List OptimizerPreset.Field) (outer : List Field) :
    PartialSettings where
  optimize? := if .optimize ∈ outer then some s.optimize else none
  optimizer? := if .optimizer ∈ outer then some (s.optimizer.kept inner) else none

theorem complete_readSoFar (s : Settings) (outer : List Field) (inner : List OptimizerPreset.Field) :
    (s.readSoFar inner outer.reverse).complete = s.kept outer inner := by
  simp only [readSoFar, PartialSettings.complete, kept, List.mem_reverse]
  split <;> split <;> rfl

theorem bool?_boolText (b : Bool) : bool? (tokenOf (boolText b)) = some b := by
  cases b <;> decide +kernel

theorem consumes_field (room : Nat) (s : Settings) {inner : List OptimizerPreset.Field}
    (hinner : inner.Nodup) (innerComma : Bool) (done : List Field) (f : Field) (hf : f ∉ done) :
    Consumes (settingsField {} room f.name (s.readSoFar inner done)) (s.fieldValue inner innerComma f)
      (s.readSoFar inner (f :: done)) := by
  cases f with
  | optimize =>
    have hbefore : (s.readSoFar inner done).optimize? = none := if_neg hf
    have hafter : s.readSoFar inner (.optimize :: done)
        = { s.readSoFar inner done with optimize? := some s.optimize } := by
      simp [readSoFar]
    rw [hafter]
    intro ws ts h
    rw [settingsField, if_pos (by decide), hbefore]
    exact consumes_single? _ rfl (bool?_boolText s.optimize) ws ts h
  | optimizer =>
    have hbefore : (s.readSoFar inner done).optimizer? = none := if_neg hf
    have hafter : s.readSoFar inner (.optimizer :: done)
        = { s.readSoFar inner done with optimizer? := some (s.optimizer.kept inner) } := by
      simp [readSoFar]
    have hrecord := record?_of_row OptimizerPreset.Field.isName
      (s.optimizer.consumes_field {} (room - fieldLevels)) innerComma hinner "OptimizerPreset"
    rw [hafter, ← OptimizerPreset.complete_readSoFar]
    intro ws ts h
    rw [settingsField, if_neg (by decide), if_pos (by decide), hbefore]
    exact hrecord.map (fun p => { s.readSoFar inner done with optimizer? := some p.complete }) ws ts h

theorem joins_fieldValue (s : Settings) (inner : List OptimizerPreset.Field) (innerComma : Bool)
    (f : Field) : Joins (f.name :: ":" :: s.fieldValue inner innerComma f) := by
  refine joins_field f.isName ?_
  cases f with
  | optimize => exact joins_word (.inl (by cases s.optimize <;> decide))
  | optimizer =>
    refine joins_recordWords _ fun row hrow => ?_
    obtain ⟨f, -, rfl⟩ := List.mem_map.1 hrow
    exact s.optimizer.joins_fieldValue f

theorem separated_words (s : Settings) (outer : List Field) (inner : List OptimizerPreset.Field)
    (outerComma innerComma : Bool) : Separated (s.words outer inner outerComma innerComma) := by
  rw [words, ← List.append_nil (recordWords _ _)]
  refine separated_recordWords _ (fun row hrow => ?_) .nil
  obtain ⟨f, -, rfl⟩ := List.mem_map.1 hrow
  exact s.joins_fieldValue inner innerComma f

/-- **Every layout of some of the fields is read as settings with these fields.** -/
theorem read?_of_spaced (s : Settings) {outer : List Field} {inner : List OptimizerPreset.Field}
    (houter : outer.Nodup) (hinner : inner.Nodup) (outerComma innerComma : Bool) {text : String}
    (h : Spaced (s.words outer inner outerComma innerComma) text.toList) :
    read? text = some (s.kept outer inner) := by
  obtain ⟨ts, hts, hrow⟩ := h.scan? (s.separated_words ..)
  have hrecord := record?_of_row Field.isName
    (s.consumes_field (nestingLimit - fieldLevels) hinner innerComma) outerComma houter "CompilerSettings"
  rw [← List.append_nil (words ..)] at hrow
  have hheader : Extensions.read? {} ts = some ({}, ts) := Extensions.read?_of_row hrow (by decide)
  obtain ⟨r, hr, hend⟩ := hrecord [] ts hrow
  have hread : ofTokens? ts = some (s.readSoFar inner outer.reverse).complete := by
    have hfields : record? {} "CompilerSettings" (settingsField {} (nestingLimit - fieldLevels)) {} ts
        = some (s.readSoFar inner outer.reverse, r) := hr
    simp [ofTokens?, hheader, hfields, hend.eq_nil]
  rw [read?, hts, ← complete_readSoFar]
  exact hread

/-! ## The written text -/

/-- The words of the written text with the blanks before them. -/
def indentedWords (s : Settings) : List (String × String) :=
  let digits := String.ofList (Decimal.natDigits s.optimizer.target.toNat)
  [("", "("),
    ("\n    ", "optimize"), ("", ":"), (" ", boolText s.optimize), ("", ","),
    ("\n    ", "optimizer"), ("", ":"), (" ", "("),
    ("\n        ", "target"), ("", ":"), (" ", digits), ("", ","),
    ("\n        ", "stage"), ("", ":"), (" ", s.optimizer.stage.key), ("", ","),
    ("\n    ", ")"), ("", ","),
    ("\n", ")")]

theorem spaced_text (s : Settings) :
    Spaced (s.words [.optimize, .optimizer] [.target, .stage] true true) s.text.toList := by
  have htext : s.text.toList
      = s.indentedWords.flatMap (fun p => p.1.toList ++ p.2.toList) ++ [] := by
    simp [text, lines, indentedWords, String.intercalate_cons_cons]
  have hblank : ∀ p ∈ s.indentedWords, p.1.toList ⊆ blanks := by
    simp only [indentedWords, List.forall_mem_cons]
    decide
  rw [htext]
  exact spaced_flatMap (fun p hp => gap_of_subset (hblank p hp)) (.gap .nil)

/--
**Settings are read back from their text, and from any layout of any of their fields in any order.**
A field that is left out has its usual value.
-/
theorem settings_read_back (s : Settings) :
    read? s.text = some s ∧
      ∀ (outer : List Field) (inner : List OptimizerPreset.Field) (outerComma innerComma : Bool)
        (text : String), outer.Nodup → inner.Nodup →
        Spaced (s.words outer inner outerComma innerComma) text.toList →
        read? text = some (s.kept outer inner) := by
  constructor
  · -- the written text is one of the layouts with all fields
    exact s.read?_of_spaced (by decide) (by decide) true true s.spaced_text
  · intro outer inner outerComma innerComma text houter hinner h
    exact s.read?_of_spaced houter hinner outerComma innerComma h

/-- Settings that are usual in no field. -/
def unusual : Settings := { optimize := false, optimizer := { target := 7, stage := .vertex } }

/-- The words of a text with comments before, between and behind them, and what stands before each. -/
def commentedWords : List (String × String) :=
  [("/*/*?*/*/", "("), ("//short\n\t", "optimizer"), (" ", ":"), ("", "("), ("\u2028", "stage"),
    ("", ":"), ("", "vertex"), ("", ","), (" ", ")"), ("", ","), ("", "optimize"), ("", ":"),
    ("", "false"), ("\n", ")")]

/-- The text of these words. -/
def commented : String :=
  "/*/*?*/*/(//short\n\toptimizer :(\u2028stage:vertex, ),optimize:false\n)//"

theorem spaced_commented :
    Spaced (unusual.words [.optimizer, .optimize] [.stage] false true) commented.toList := by
  have hnested : Gap ('/' :: '*' :: ('/' :: '*' :: (['?', '*', '/'] ++ ['*', '/']) ++ [])) :=
    .block (.comment (.char (by decide) (by decide) .close) .close) .nil
  have hline : Gap ('/' :: '/' :: ("short".toList ++ '\n' :: ['\t'])) :=
    .line (by decide) (.blank (by decide) .nil)
  have hblank : ∀ p ∈ commentedWords.drop 2, p.1.toList ⊆ blanks := by decide +kernel
  have hgaps : ∀ p ∈ commentedWords, Gap p.1.toList :=
    List.forall_mem_cons.2 ⟨hnested, List.forall_mem_cons.2 ⟨hline, fun p hp =>
      gap_of_subset (hblank p hp)⟩⟩
  have hending : Ending ([] ++ '/' :: '/' :: []) := .line .nil (by decide)
  have hwords : unusual.words [.optimizer, .optimize] [.stage] false true
      = commentedWords.map Prod.snd := by decide +kernel
  have htext : commented.toList
      = commentedWords.flatMap (fun p => p.1.toList ++ p.2.toList) ++ ['/', '/'] := by decide +kernel
  rw [hwords, htext]
  exact spaced_flatMap hgaps hending

/-- Fields in another order, one of them left out. -/
theorem settings_read_back_commented :
    [Field.optimizer, .optimize].Nodup ∧ [OptimizerPreset.Field.stage].Nodup ∧
      Spaced (unusual.words [.optimizer, .optimize] [.stage] false true) commented.toList ∧
      read? commented = some { optimize := false, optimizer := { target := 1, stage := .vertex } } := by
  have houter : [Field.optimizer, .optimize].Nodup := by decide
  have hinner : [OptimizerPreset.Field.stage].Nodup := by decide
  refine ⟨houter, hinner, spaced_commented, ?_⟩
  exact (settings_read_back unusual).2 _ _ false true commented houter hinner spaced_commented

end Settings

end ShadingGraph
