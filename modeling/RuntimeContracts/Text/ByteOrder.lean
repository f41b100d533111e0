/-!
# Order of texts by their bytes

Texts are put in order by their UTF-8 bytes, the first difference deciding and a proper
beginning coming first.

* `Text.Before`: the strict order, with `Before.irrefl`, `Before.trans` and
  `before_or_eq_or_before`.
-/
namespace RuntimeContracts.Text

/-- The UTF-8 bytes of a text. -/
def utf8 (text : String) : List UInt8 := text.toByteArray.data.toList

theorem utf8_inj {s t : String} (h : utf8 s = utf8 t) : s = t :=
  String.toByteArray_inj.1 (ByteArray.ext (Array.toList_inj.1 h))

/-- `s` comes before `t` in the order of their bytes. -/
def Before (s t : String) : Prop := utf8 s < utf8 t

instance : DecidableRel Before := fun s t => inferInstanceAs (Decidable (utf8 s < utf8 t))

theorem Before.irrefl (s : String) : ¬ Before s s := List.lt_irrefl _

theorem Before.trans {s t u : String} (h₁ : Before s t) (h₂ : Before t u) : Before s u :=
  List.lt_trans h₁ h₂

theorem Before.ne {s t : String} (h : Before s t) : s ≠ t :=
  fun heq => Before.irrefl s (heq ▸ h)

theorem Before.asymm {s t : String} (h : Before s t) : ¬ Before t s :=
  fun h' => Before.irrefl s (h.trans h')

theorem before_or_eq_or_before (s t : String) : Before s t ∨ s = t ∨ Before t s := by
  by_cases h₁ : Before s t
  · exact .inl h₁
  by_cases h₂ : Before t s
  · exact .inr (.inr h₂)
  exact .inr (.inl (utf8_inj (List.le_antisymm (List.not_lt.1 h₂) (List.not_lt.1 h₁))))

end RuntimeContracts.Text
