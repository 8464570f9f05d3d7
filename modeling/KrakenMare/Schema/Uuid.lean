import Mathlib.Data.Nat.Notation
import Mathlib.Data.Nat.Digits.Defs

/-!
# UUIDs and their text form

Every identity the framework hands out is a `java.util.UUID`: 128 bits, written in lower-case
hexadecimal in groups of 8, 4, 4, 4 and 12 digits.  Agents, devices and sensors all have one.

A UUID is used through its text.  It is one level of the topics on which an agent and the framework
talk, a part of the field name under which Redis keeps the agent, and the key of a Kafka record.
Two facts about the text are all that the development needs.

* `UUID.toString_injective` — two UUIDs with one text are one UUID, so topics and field names of
  different agents differ.
* `UUID.not_mem_toString` — the text holds hexadecimal digits and dashes only, so it is one level
  of a topic and no wildcard.

Which of the 128 bits are random and which name the version plays no role anywhere.
-/

namespace KrakenMare

/-- A `java.util.UUID`, by its 128 bits; nothing here depends on version or variant. -/
structure UUID where
  value : Fin (2 ^ 128)
deriving DecidableEq

/-- So that a value may be written as a numeral. -/
instance UUID.neZero : NeZero (2 ^ 128) := ⟨by decide⟩

/-- The `len` lowest hexadecimal digits of `v`, most significant first, with zeros in front. -/
def hexDigits : ℕ → ℕ → List Char
  | 0, _ => []
  | len + 1, v => hexDigits len (v / 16) ++ [Nat.digitChar (v % 16)]

@[simp] lemma hexDigits_length : ∀ len v, (hexDigits len v).length = len
  | 0, _ => rfl
  | len + 1, v => by simp [hexDigits, hexDigits_length len]

lemma digitChar_inj : ∀ a < 16, ∀ b < 16, Nat.digitChar a = Nat.digitChar b → a = b := by
  decide

lemma hexDigits_inj : ∀ len v w, v < 16 ^ len → w < 16 ^ len →
    hexDigits len v = hexDigits len w → v = w
  | 0, v, w, hv, hw, _ => by omega
  | len + 1, v, w, hv, hw, h => by
      simp only [hexDigits] at h
      obtain ⟨hhigh, hlow⟩ := List.append_inj h (by simp)
      rw [pow_succ] at hv hw
      have hdiv := hexDigits_inj len (v / 16) (w / 16) (by omega) (by omega) hhigh
      have hmod := digitChar_inj (v % 16) (by omega) (w % 16) (by omega) (by simpa using hlow)
      omega

lemma exists_of_mem_hexDigits {c : Char} : ∀ {len v : ℕ}, c ∈ hexDigits len v →
    ∃ d < 16, c = Nat.digitChar d
  | 0, _, h => absurd h List.not_mem_nil
  | len + 1, v, h => by
      rcases List.mem_append.mp h with h | h
      · exact exists_of_mem_hexDigits h
      · exact ⟨v % 16, Nat.mod_lt _ (by decide), List.mem_singleton.mp h⟩

namespace UUID

/-- `java.util.UUID.toString`, as a list of characters: five groups of digits with dashes
between. -/
def chars (u : UUID) : List Char :=
  hexDigits 8 (u.value / 16 ^ 24) ++ '-' :: (hexDigits 4 (u.value / 16 ^ 20 % 16 ^ 4)
    ++ '-' :: (hexDigits 4 (u.value / 16 ^ 16 % 16 ^ 4)
    ++ '-' :: (hexDigits 4 (u.value / 16 ^ 12 % 16 ^ 4)
    ++ '-' :: hexDigits 12 (u.value % 16 ^ 12))))

/-- `java.util.UUID.toString`, which is also how Python's `str` writes a UUID. -/
def toString (u : UUID) : String := String.ofList u.chars

/-- The five groups of digits together hold all the bits, so a UUID can be read back from its
text. -/
theorem chars_injective {u v : UUID} (h : u.chars = v.chars) : u = v := by
  obtain ⟨⟨u, hu⟩⟩ := u
  obtain ⟨⟨v, hv⟩⟩ := v
  simp only [chars] at h
  obtain ⟨h₁, h⟩ := List.append_inj h (by simp)
  obtain ⟨h₂, h⟩ := List.append_inj (List.cons.inj h).2 (by simp)
  obtain ⟨h₃, h⟩ := List.append_inj (List.cons.inj h).2 (by simp)
  obtain ⟨h₄, h⟩ := List.append_inj (List.cons.inj h).2 (by simp)
  have e₁ := hexDigits_inj _ _ _ (by omega) (by omega) h₁
  have e₂ := hexDigits_inj _ _ _ (by omega) (by omega) h₂
  have e₃ := hexDigits_inj _ _ _ (by omega) (by omega) h₃
  have e₄ := hexDigits_inj _ _ _ (by omega) (by omega) h₄
  have e₅ := hexDigits_inj _ _ _ (by omega) (by omega) (List.cons.inj h).2
  have : u = v := by omega
  subst this
  rfl

/-- A UUID can be read back from its text, so what is named by the text is named by the UUID. -/
theorem toString_injective {u v : UUID} (h : u.toString = v.toString) : u = v :=
  chars_injective (String.ofList_injective h)

/-- A UUID is one level of a topic, and no wildcard. -/
lemma not_mem_toString (u : UUID) {c : Char} (hdash : c ≠ '-')
    (hdigit : ∀ d < 16, c ≠ Nat.digitChar d) : c ∉ u.toString.toList := by
  have hgroup : ∀ len v, c ∉ hexDigits len v := by
    intro len v h
    obtain ⟨d, hd, hc⟩ := exists_of_mem_hexDigits h
    exact hdigit d hd hc
  have hchars : u.toString.toList = u.chars := String.toList_ofList
  rw [hchars, chars]
  simp only [List.mem_append, List.mem_cons, hgroup, hdash, or_self, not_false_eq_true]

example : (UUID.mk 0x550e8400e29b41d4a716446655440000).toString
    = "550e8400-e29b-41d4-a716-446655440000" := by decide

end UUID

end KrakenMare
