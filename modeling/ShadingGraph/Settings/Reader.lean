import ShadingGraph.Settings
import ShadingGraph.Settings.Skip

/-!
# Reading settings

Settings are written as a record, `(field: value, ...)`, with the preset of the optimizer as a record
within. Fields come in any order, a comma may follow the last one, and what is left out has its usual
value. A field that is not known is skipped; a known one must not be repeated. A record may be
preceded by its name, and has to be if the extension for that is on.

`record?` reads the fields of a record by a rule for single fields, `readPreset?` and `readSettings?`
are such records, and `Settings.read?` reads a whole text.
-/

namespace ShadingGraph.Settings

open Text

/-! ## Records -/

/-- How one field of a record is read: its name and the tokens of its value change a state. -/
abbrev FieldRule (σ : Type) := String → σ → (ts : List Token) → Option (σ × Rest ts)

/-- The fields of a record, and the parenthesis that closes it. -/
def fields? {σ : Type} (rule : FieldRule σ) (s : σ) (ts : List Token) : Option (σ × Rest ts) :=
  match mark? ')' ts with
  | some e => some (s, e)
  | none =>
    match fieldName? ts with
    | none => none
    | some (name, n) =>
      match rule name s n.list with
      | none => none
      | some (s, v) =>
        match mark? ')' v.list with
        | some e => some (s, n.trans (v.trans e))
        | none =>
          match mark? ',' v.list with
          | none => none
          | some c => (fields? rule s c.list).map fun p => (p.1, (n.trans (v.trans c)).trans p.2)
termination_by ts.length
decreasing_by exact (n.trans (v.trans c)).shorter

/-- What is inside the parentheses of a record, and the parentheses. -/
def enclosed? {σ : Type} (rule : FieldRule σ) (s : σ) : (ts : List Token) → Option (σ × Rest ts)
  | .unit :: rest => some (s, .behind _ rest)
  | .mark '(' :: rest => (fields? rule s rest).map fun p => (p.1, p.2.push _)
  | _ => none

/-- A record: its name, or none unless names are needed, and its fields in parentheses. -/
def record? {σ : Type} (x : Extensions) (name : String) (rule : FieldRule σ) (s : σ)
    (ts : List Token) : Option (σ × Rest ts) :=
  match ts with
  | [] => none
  | t :: rest =>
    match t.name? with
    | some n =>
      if n = name then (enclosed? rule s rest).map fun p => (p.1, p.2.push t) else none
    | none => if x.explicitNames then none else enclosed? rule s (t :: rest)

/-- A field that a single token gives, and that must not have been read before. -/
def single? {α σ : Type} (before : Option α) (ofToken? : Token → Option α) (store : α → σ)
    (ts : List Token) : Option (σ × Rest ts) :=
  match before, ts with
  | none, t :: rest => (ofToken? t).map fun a => (store a, .behind t rest)
  | _, _ => none

/-! ## Values of known fields -/

def bool? : Token → Option Bool
  | .word "true" => some true
  | .word "false" => some false
  | _ => none

def target? : Token → Option UInt32
  | .number cs => word32? cs
  | _ => none

def stage? (t : Token) : Option Stage := t.name?.bind fun name => Stage.all.find? fun s => s.key = name

/-- What has been read of a preset. -/
structure PartialPreset where
  target? : Option UInt32 := none
  stage? : Option Stage := none

/-- The preset, with the usual values for what was left out. -/
def PartialPreset.complete (p : PartialPreset) : OptimizerPreset :=
  let usual : OptimizerPreset := {}
  { target := p.target?.getD usual.target, stage := p.stage?.getD usual.stage }

/-- The fields of a preset, where values may nest `room` levels deep. -/
def presetField (x : Extensions) (room : Nat) : FieldRule PartialPreset := fun name p ts =>
  if name = "target" then
    single? p.target? target? (fun n => { p with target? := some n }) ts
  else if name = "stage" then
    single? p.stage? stage? (fun s => { p with stage? := some s }) ts
  else (skipValue? x room ts).map fun r => (p, r)

/-- What has been read of settings. -/
structure PartialSettings where
  optimize? : Option Bool := none
  optimizer? : Option OptimizerPreset := none

/-- The settings, with the usual values for what was left out. -/
def PartialSettings.complete (s : PartialSettings) : Settings :=
  let usual : Settings := {}
  { optimize := s.optimize?.getD usual.optimize, optimizer := s.optimizer?.getD usual.optimizer }

/-- How many levels a record and a field of it take together. -/
def fieldLevels : Nat := 2

/-- The fields of settings, where values may nest `room` levels deep. -/
def settingsField (x : Extensions) (room : Nat) : FieldRule PartialSettings := fun name s ts =>
  if name = "optimize" then
    single? s.optimize? bool? (fun b => { s with optimize? := some b }) ts
  else if name = "optimizer" then
    match s.optimizer? with
    | some _ => none
    | none =>
      (record? x "OptimizerPreset" (presetField x (room - fieldLevels)) {} ts).map fun r =>
        ({ s with optimizer? := some r.1.complete }, r.2)
  else (skipValue? x room ts).map fun r => (s, r)

/-- How many levels deep a settings text may nest. -/
def nestingLimit : Nat := 128

/-- Settings from tokens. -/
def ofTokens? (ts : List Token) : Option Settings := do
  let (x, ts) ← Extensions.read? {} ts
  let (s, r) ← record? x "CompilerSettings" (settingsField x (nestingLimit - fieldLevels)) {} ts
  if r.list.isEmpty then some s.complete else none

/-- Read settings. -/
def read? (s : String) : Option Settings := (Token.scan? s.toList).bind ofTokens?

/-! ## Files -/

/-- Why a settings file cannot be used. -/
inductive LoadError where
  /-- There is no such file, or its bytes are no text. -/
  | io
  /-- The text is no settings text. -/
  | parse
deriving DecidableEq, Repr

/-- Settings from the bytes of a file, if there is one. -/
def load (bytes? : Option ByteArray) : Except LoadError Settings := do
  let some bytes := bytes? | throw .io
  let some text := String.fromUTF8? bytes | throw .io
  let some settings := read? text | throw .parse
  return settings

end ShadingGraph.Settings
