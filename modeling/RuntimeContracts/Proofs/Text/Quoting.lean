import RuntimeContracts.Text.Quoted

/-!
# Quoted texts can be told apart

The escapes of a quoted text are a prefix code: where the form of a character ends can be seen
from the form itself, so that the characters are read off a quoted text one after another.

* `Text.toDigits_inj`: numerals of a base up to sixteen determine their number.
* `Text.Form`: the three shapes that the form of a character can have.
* `Text.Form.unique`: forms that begin the same text are forms of the same character.
* `Text.quoted_inj`: a quoted text determines the text.
-/

namespace RuntimeContracts.Text

/-! ## Numerals -/

open Nat (toDigits toDigits_of_lt_base toDigits_of_base_le length_toDigits_pos)

theorem digitChar_inj {m n : Nat} (hm : m < 16) (hn : n < 16) (h : m.digitChar = n.digitChar) :
    m = n := by
  have hall : ∀ a b : Fin 16, Nat.digitChar a = Nat.digitChar b → a = b := by decide
  exact congrArg Fin.val (hall ⟨m, hm⟩ ⟨n, hn⟩ h)

/-- Numerals of a base up to sixteen determine their number. -/
theorem toDigits_inj {b m n : Nat} (hb : 1 < b) (hb' : b ≤ 16)
    (h : toDigits b m = toDigits b n) : m = n := by
  induction m using Nat.strongRecOn generalizing n with
  | ind m ih =>
    have hlen := congrArg List.length h
    by_cases hm : m < b
    · by_cases hn : n < b
      · rw [toDigits_of_lt_base hm, toDigits_of_lt_base hn] at h
        exact digitChar_inj (by omega) (by omega) (List.singleton_inj.1 h)
      · rw [toDigits_of_lt_base hm, toDigits_of_base_le hb (by omega)] at hlen
        have := length_toDigits_pos (b := b) (n := n / b)
        simp only [List.length_append, List.length_singleton] at hlen
        omega
    · by_cases hn : n < b
      · rw [toDigits_of_lt_base hn, toDigits_of_base_le hb (by omega)] at hlen
        have := length_toDigits_pos (b := b) (n := m / b)
        simp only [List.length_append, List.length_singleton] at hlen
        omega
      · rw [toDigits_of_base_le hb (by omega), toDigits_of_base_le hb (by omega : b ≤ n)] at h
        obtain ⟨hquot, hlast⟩ := List.append_inj' h rfl
        have hdiv := ih (m / b) (Nat.div_lt_self (by omega) hb) hquot
        have hmod : m % b = n % b :=
          digitChar_inj (Nat.lt_of_lt_of_le (Nat.mod_lt m (by omega)) hb')
            (Nat.lt_of_lt_of_le (Nat.mod_lt n (by omega)) hb') (List.singleton_inj.1 hlast)
        rw [← Nat.div_add_mod m b, ← Nat.div_add_mod n b, hdiv, hmod]

theorem exists_eq_digitChar_of_mem_toDigits {b n : Nat} (hb : 1 < b) {c : Char}
    (h : c ∈ toDigits b n) : ∃ k : Nat, c = k.digitChar := by
  induction n using Nat.strongRecOn with
  | ind n ih =>
    by_cases hn : n < b
    · rw [toDigits_of_lt_base hn] at h
      exact ⟨n, List.mem_singleton.1 h⟩
    · rw [toDigits_of_base_le hb (by omega)] at h
      rcases List.mem_append.1 h with hfront | hlast
      · exact ih (n / b) (Nat.div_lt_self (by omega) hb) hfront
      · exact ⟨_, List.mem_singleton.1 hlast⟩

/-- What stands before the first occurrence of a character is determined. -/
theorem append_cons_inj {β : Type} {a : β} {before before' after after' : List β}
    (h : a ∉ before) (h' : a ∉ before') (heq : before ++ a :: after = before' ++ a :: after') :
    before = before' ∧ after = after' := by
  induction before generalizing before' with
  | nil =>
    cases before' with
    | nil => exact ⟨rfl, List.tail_eq_of_cons_eq heq⟩
    | cons b rest => exact absurd (List.head_eq_of_cons_eq heq ▸ List.mem_cons_self) h'
  | cons b rest ih =>
    cases before' with
    | nil => exact absurd (List.head_eq_of_cons_eq heq ▸ List.mem_cons_self) h
    | cons b' rest' =>
      obtain ⟨rfl, htail⟩ := List.cons.inj heq
      obtain ⟨rfl, hafter⟩ := ih (fun hm => h (List.mem_cons_of_mem b hm))
        (fun hm => h' (List.mem_cons_of_mem b hm)) htail
      exact ⟨rfl, hafter⟩

/-! ## Forms of characters -/

/-- The character that an escape of one letter stands for. -/
def shortEscape? : Char → Option Char
  | '0' => some '\x00'
  | 't' => some '\t'
  | 'n' => some '\n'
  | 'r' => some '\r'
  | '"' => some '"'
  | '\\' => some '\\'
  | _ => none

/-- The shapes that the form of a character has inside a quoted text. -/
inductive Form : Char → List Char → Prop where
  /-- The character itself. It neither begins an escape nor ends the text. -/
  | plain {c : Char} (hescape : c ≠ '\\') (hquote : c ≠ '"') : Form c [c]
  | short {c k : Char} (h : shortEscape? k = some c) : Form c ['\\', k]
  | codePoint (c : Char) : Form c (codePointEscape c)

theorem form_escaped (c : Char) : Form c (escaped c) := by
  unfold escaped
  split
  · next h => subst h; exact .short rfl
  split
  · next h => subst h; exact .short rfl
  split
  · next h => subst h; exact .short rfl
  split
  · next h => subst h; exact .short rfl
  split
  · next h => subst h; exact .short rfl
  split
  · next h => subst h; exact .short rfl
  split
  · next hquote hescape _ => exact .plain hescape hquote
  · exact .codePoint c

namespace Form

theorem codePointEscape_inj {c d : Char} {r s : List Char}
    (h : codePointEscape c ++ r = codePointEscape d ++ s) : c = d ∧ r = s := by
  have hdigits : ∀ e : Char, '\x7d' ∉ Nat.toDigits 16 e.toNat := by
    intro e hmem
    obtain ⟨k, hk⟩ := exists_eq_digitChar_of_mem_toDigits (by decide) hmem
    exact Nat.digitChar_ne '\x7d' (by decide) hk.symm
  simp only [codePointEscape, List.cons_append, List.append_assoc, List.cons.injEq, true_and,
    List.nil_append] at h
  obtain ⟨hnum, hrest⟩ := append_cons_inj (hdigits c) (hdigits d) h
  exact ⟨Char.toNat_inj.1 (toDigits_inj (by decide) (by decide) hnum), hrest⟩

/-- Forms that begin the same text are forms of the same character. -/
theorem unique {c d : Char} {x y r s : List Char} (hx : Form c x) (hy : Form d y)
    (h : x ++ r = y ++ s) : c = d ∧ r = s := by
  cases hx with
  | plain hescape _ =>
    cases hy with
    | plain => simpa using h
    | short => exact absurd (List.cons.inj h).1 hescape
    | codePoint => exact absurd (List.cons.inj h).1 hescape
  | short hc =>
    cases hy with
    | plain hescape _ => exact absurd (List.cons.inj h).1.symm hescape
    | short hd =>
      obtain ⟨rfl, rfl⟩ : _ = _ ∧ r = s := by simpa using h
      exact ⟨Option.some.inj (hc.symm.trans hd), rfl⟩
    | codePoint =>
      have hk := (List.cons.inj (List.cons.inj h).2).1
      rw [hk] at hc
      cases hc
  | codePoint =>
    cases hy with
    | plain hescape _ => exact absurd (List.cons.inj h).1.symm hescape
    | short hd =>
      have hk := (List.cons.inj (List.cons.inj h).2).1
      rw [← hk] at hd
      cases hd
    | codePoint => exact codePointEscape_inj h

/-- No form begins with the quote that ends a quoted text. -/
theorem not_quote {c : Char} {x r s : List Char} (h : Form c x) : x ++ r ≠ '"' :: s := by
  intro heq
  cases h with
  | plain _ hquote => exact hquote (List.cons.inj heq).1
  | short => exact absurd (List.cons.inj heq).1 (by decide)
  | codePoint => exact absurd (List.cons.inj heq).1 (by decide)

end Form

/-! ## Quoted texts -/

theorem flatMap_escaped_inj {cs ds : List Char}
    (h : cs.flatMap escaped ++ ['"'] = ds.flatMap escaped ++ ['"']) : cs = ds := by
  induction cs generalizing ds with
  | nil =>
    cases ds with
    | nil => rfl
    | cons d rest =>
      rw [List.flatMap_cons, List.append_assoc] at h
      exact absurd h.symm (form_escaped d).not_quote
  | cons c rest ih =>
    rw [List.flatMap_cons, List.append_assoc] at h
    cases ds with
    | nil => exact absurd h (form_escaped c).not_quote
    | cons d rest' =>
      rw [List.flatMap_cons, List.append_assoc] at h
      obtain ⟨rfl, hrest⟩ := (form_escaped c).unique (form_escaped d) h
      rw [ih hrest]

/-- A quoted text determines the text. -/
theorem quoted_inj {s t : String} (h : quoted s = quoted t) : s = t := by
  have hchars := List.tail_eq_of_cons_eq (String.ofList_inj.1 h)
  exact String.toList_inj.1 (flatMap_escaped_inj hchars)

end RuntimeContracts.Text
