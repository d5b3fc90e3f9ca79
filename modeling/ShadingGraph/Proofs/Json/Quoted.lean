import ShadingGraph.Json.Printer
import ShadingGraph.Json.Reader

/-!
# Strings in JSON texts

A string is read back from between its quotes: every character from the form in which it stands there
(`reads_stringChar?_escape`), and so all of them up to the closing quote (`reads_stringRest?`).
-/

namespace ShadingGraph

namespace Json

open Text

/-- A reader gives a value and leaves a text. -/
def Reads {α : Type} {cs : List Char} (read : Option (α × Rest cs)) (a : α) (rest : List Char) :
    Prop :=
  ∃ r, read = some (a, r) ∧ r.list = rest

theorem Reads.map {α β : Type} {cs cs' rest : List Char} {read : Option (α × Rest cs)} {a : α}
    (h : Reads read a rest) (f : α → β) (t : Rest cs → Rest cs') (ht : ∀ r, (t r).list = r.list) :
    Reads (read.map fun p => (f p.1, t p.2)) (f a) rest := by
  obtain ⟨r, rfl, rfl⟩ := h
  exact ⟨t r, rfl, ht r⟩

/-! ## Characters -/

theorem hexNumber?_control :
    ∀ n < 0x20, hexNumber? ['0', '0', Nat.digitChar (n / 16), Nat.digitChar (n % 16)] = some n := by
  decide

/-- A control character is read back from its code. -/
theorem reads_unicodeChar?_control {c : Char} (hc : c.toNat < 0x20) (rest : List Char) :
    Reads (unicodeChar? ('0' :: '0' :: Nat.digitChar (c.toNat / 16) :: Nat.digitChar (c.toNat % 16) ::
      rest)) c rest := by
  have hhigh : ¬0xD800 ≤ c.toNat := by omega
  have hlow : ¬0xDC00 ≤ c.toNat := by omega
  simp [Reads, unicodeChar?, hexUnit?, hexNumber?_control _ hc, hhigh, hlow, Char.ofNat_toNat,
    Rest.drop]

/-- A character stands in a string behind a backslash, by its code, or as it is. -/
theorem escape_cases (c : Char) :
    (∃ d, escape c = ['\x5c', d] ∧ ∀ rest, Reads (escaped? (d :: rest)) c rest) ∨
    (c.toNat < 0x20 ∧ escape c =
      ['\x5c', 'u', '0', '0', Nat.digitChar (c.toNat / 16), Nat.digitChar (c.toNat % 16)]) ∨
    (¬c.toNat < 0x20 ∧ c ≠ '"' ∧ c ≠ '\x5c' ∧ escape c = [c]) := by
  unfold escape
  split
  iterate 7 exact Or.inl ⟨_, rfl, fun _ => ⟨_, rfl, rfl⟩⟩
  next hquote hback _ _ _ _ _ =>
    right
    by_cases hc : c.toNat < 0x20
    · exact Or.inl ⟨hc, if_pos hc⟩
    · exact Or.inr ⟨hc, hquote, hback, if_neg hc⟩

/-- **A character is read back from the form in which it stands in a string.** -/
theorem reads_stringChar?_escape (c : Char) (rest : List Char) :
    Reads (stringChar? (escape c ++ rest)) c rest := by
  rcases escape_cases c with ⟨d, heq, hd⟩ | ⟨hc, heq⟩ | ⟨hc, -, hback, heq⟩
  · rw [heq]
    exact (hd rest).map id (Rest.push '\x5c') fun _ => rfl
  · rw [heq]
    exact ((reads_unicodeChar?_control hc rest).map id (Rest.push 'u') fun _ => rfl).map id
      (Rest.push '\x5c') fun _ => rfl
  · rw [heq, List.singleton_append, stringChar?, if_neg hc]
    · exact ⟨_, rfl, rfl⟩
    · exact hback

theorem head?_escape_ne (c : Char) (rest : List Char) : (escape c ++ rest).head? ≠ some '"' := by
  rcases escape_cases c with ⟨d, heq, -⟩ | ⟨-, heq⟩ | ⟨-, hquote, -, heq⟩
  · rw [heq]
    exact fun h => absurd (Option.some.inj h) (by decide)
  · rw [heq]
    exact fun h => absurd (Option.some.inj h) (by decide)
  · rw [heq]
    exact fun h => hquote (Option.some.inj h)

/-! ## Strings -/

theorem stringRest?_of_notQuote {cs : List Char} (h : cs.head? ≠ some '"') :
    stringRest? cs = match stringChar? cs with
      | none => none
      | some (c, r) => (stringRest? r.list).map fun p => (c :: p.1, r.trans p.2) := by
  have hne : ∀ rest, cs = '"' :: rest → False := by
    rintro rest rfl
    exact h rfl
  exact stringRest?.eq_2 cs hne

/-- **A string is read back up to its closing quote.** -/
theorem reads_stringRest? {text cs rest : List Char}
    (htext : text = cs.flatMap escape ++ '"' :: rest) : Reads (stringRest? text) cs rest := by
  induction cs generalizing text with
  | nil =>
    rw [htext, List.flatMap_nil, List.nil_append, stringRest?]
    exact ⟨_, rfl, rfl⟩
  | cons c cs ih =>
    rw [List.flatMap_cons, List.append_assoc] at htext
    obtain ⟨r, hr, hlist⟩ := reads_stringChar?_escape c (cs.flatMap escape ++ '"' :: rest)
    rw [htext, stringRest?_of_notQuote (head?_escape_ne _ _), hr]
    exact (ih hlist).map (c :: ·) r.trans fun _ => rfl

end Json

end ShadingGraph
