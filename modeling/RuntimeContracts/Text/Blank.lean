import RuntimeContracts.Text.CharTable

/-!
# Blank text

White space is the Unicode property `White_Space`. A text is blank when it holds nothing else,
so the empty text is blank.

* `Text.isBlank_iff`: a text is blank when every character of it is white space.
* `Text.trimEnd_eq_iff`: white space at the end of a text is cut off, and nothing before the last
  visible character is.
-/
namespace RuntimeContracts.Text

/-- The characters with the property `White_Space`. -/
def whiteSpace : CharTable :=
  ⟨[(0x09, 0x0D), (0x20, 0x20), (0x85, 0x85), (0xA0, 0xA0), (0x1680, 0x1680),
    (0x2000, 0x200A), (0x2028, 0x2029), (0x202F, 0x202F), (0x205F, 0x205F), (0x3000, 0x3000)]⟩

def isSpace (c : Char) : Bool := whiteSpace.contains c

/-- The text is empty or holds white space only. -/
def isBlank (text : String) : Bool := text.toList.all isSpace

/-- The text without the white space at its end. -/
def trimEnd (text : String) : String :=
  String.ofList (text.toList.reverse.dropWhile isSpace).reverse

theorem isBlank_iff {text : String} :
    isBlank text = true ↔ ∀ c ∈ text.toList, isSpace c = true := by
  simp [isBlank]

example : isBlank "" = true := by decide

/-! ## What trimming leaves and what it cuts off -/

theorem isSpace_of_getLast?_trimEnd {text : String} {c : Char}
    (hc : (trimEnd text).toList.getLast? = some c) : isSpace c = false := by
  rw [trimEnd, String.toList_ofList, List.getLast?_reverse] at hc
  have hfirst := List.head?_dropWhile_not isSpace text.toList.reverse
  rw [hc] at hfirst
  exact hfirst

theorem exists_eq_trimEnd_append (text : String) :
    ∃ space, isBlank space = true ∧ text = trimEnd text ++ space := by
  refine ⟨String.ofList (text.toList.reverse.takeWhile isSpace).reverse, ?_, ?_⟩
  · rw [isBlank_iff]
    intro c hc
    rw [String.toList_ofList, List.mem_reverse] at hc
    exact List.all_eq_true.1 List.all_takeWhile c hc
  · rw [← String.toList_inj, String.toList_append, trimEnd, String.toList_ofList,
      String.toList_ofList, ← List.reverse_append, List.takeWhile_append_dropWhile,
      List.reverse_reverse]

/-- White space goes up to the last visible character, and no further. -/
theorem trimEnd_append {kept space : String}
    (hkept : ∀ c, kept.toList.getLast? = some c → isSpace c = false)
    (hspace : isBlank space = true) : trimEnd (kept ++ space) = kept := by
  have hcut : ∀ c ∈ space.toList.reverse, isSpace c = true :=
    fun c hc => isBlank_iff.1 hspace c (List.mem_reverse.1 hc)
  have hstop : kept.toList.reverse.dropWhile isSpace = kept.toList.reverse := by
    rw [← List.head?_reverse] at hkept
    cases hchars : kept.toList.reverse with
    | nil => rfl
    | cons c rest =>
      rw [hchars] at hkept
      exact List.dropWhile_cons_of_neg (by simp [hkept c rfl])
  rw [trimEnd, String.toList_append, List.reverse_append, List.dropWhile_append_of_pos hcut, hstop,
    List.reverse_reverse, String.ofList_toList]

/-- A text divides in one way only into a part that ends visibly and white space behind it. -/
theorem trimEnd_eq_iff {text kept : String} :
    trimEnd text = kept ↔ (∀ c, kept.toList.getLast? = some c → isSpace c = false) ∧
      ∃ space, isBlank space = true ∧ text = kept ++ space := by
  constructor
  · rintro rfl
    exact ⟨fun _ => isSpace_of_getLast?_trimEnd, exists_eq_trimEnd_append text⟩
  · rintro ⟨hkept, space, hspace, rfl⟩
    exact trimEnd_append hkept hspace

end RuntimeContracts.Text
