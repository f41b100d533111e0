import Mathlib.Data.List.Induction
import RuntimeContracts.Contract.Error
import RuntimeContracts.Proofs.Message.Citation
import RuntimeContracts.Proofs.Text.Quoting

/-!
# Messages tell errors apart

The message of a violation holds the text of a value and the display names of assertions as they
are. The text of the value may imitate everything that follows it, so a message is read from its
end: as long as no display name holds a quotation mark, the last two marks enclose the last name,
and the character before them tells a single name from the last one of a list.

* `Violation.toList_citation_of_two_le`: a list of names has each name on a line of its own, and
  nothing behind the last one.
* `Violation.listing_inj`, `Violation.citation_inj`: a citation can be read from its end.
* `Violation.message_inj`: the message of a violation determines the violation.
* `ContractError.message_eq_iff`: the message of an error determines the error.
-/
namespace RuntimeContracts

open Text (append_cons_inj)

namespace Violation

/-! ## Citations -/

/-- A name on a line of its own, behind the end of the line before. -/
def line (name : String) : List Char := '\n' :: '\t' :: '"' :: (name.toList ++ ['"'])

/-- Names on lines of their own. -/
def listing (names : List String) : List Char := names.flatMap line

theorem listing_nil : listing [] = [] := rfl

theorem listing_concat (names : List String) (name : String) :
    listing (names ++ [name]) = (listing names ++ ['\n', '\t']) ++ '"' :: (name.toList ++ ['"']) := by
  simp [listing, line]

theorem toList_oneToALine (names : List String) :
    (oneToALine names).toList = "assertions".toList ++ listing names := by
  have hline : ∀ name : String, ("\n\t\"" ++ name ++ "\"").toList = line name :=
    fun name => by simp [line]
  rw [oneToALine, String.toList_append, String.toList_join, List.flatMap_map]
  simp only [hline, listing]

/-- A list of names has each name on a line of its own. Only the line break behind the last one is
cut off. -/
theorem toList_citation_of_two_le {v : Violation} (h : 2 ≤ v.cited.length) :
    v.citation.toList = "assertions".toList ++ listing v.cited := by
  rw [citation_eq_oneToALine h, toList_oneToALine]

/-- What a citation of these names looks like. -/
def citationChars : List String → List Char
  | [] => "no assertions".toList
  | [name] => "assertion ".toList ++ '"' :: (name.toList ++ ['"'])
  | names => "assertions".toList ++ listing names

theorem citationChars_nil : citationChars [] = "no assertions".toList := rfl

theorem citationChars_singleton (name : String) :
    citationChars [name] = "assertion ".toList ++ '"' :: (name.toList ++ ['"']) := rfl

theorem toList_citation (v : Violation) : v.citation.toList = citationChars v.cited := by
  obtain ⟨clause, index, value, cited⟩ := v
  match cited with
  | [] => rfl
  | [name] =>
    rw [citationChars_singleton]
    simp [citation]
  | name :: second :: rest => exact toList_citation_of_two_le (by simp)

/-! ## Reading a citation from its end -/

/-- No name holds a quotation mark. -/
def Unquoted (names : List String) : Prop := ∀ name ∈ names, '"' ∉ name.toList

/-- The last two quotation marks enclose the last name. -/
theorem quoted_end_inj {x y : List Char} {name name' : String} (h : '"' ∉ name.toList)
    (h' : '"' ∉ name'.toList)
    (heq : x ++ '"' :: (name.toList ++ ['"']) = y ++ '"' :: (name'.toList ++ ['"'])) :
    x = y ∧ name = name' := by
  have hreverse := congrArg List.reverse heq
  simp only [List.reverse_append, List.reverse_cons, List.reverse_nil, List.nil_append,
    List.cons_append, List.append_assoc, List.cons.injEq, true_and] at hreverse
  obtain ⟨hname, hfront⟩ := append_cons_inj (by simpa using h) (by simpa using h') hreverse
  exact ⟨List.reverse_inj.1 hfront, String.toList_inj.1 (List.reverse_inj.1 hname)⟩

theorem getLast?_quoted (x : List Char) (name : String) :
    (x ++ '"' :: (name.toList ++ ['"'])).getLast? = some '"' := by
  rw [← List.cons_append, ← List.append_assoc, List.getLast?_concat]

/-- A text that ends in a listing determines the listing, if the text before it does not end as a
line does. -/
theorem listing_inj {x y : List Char} {names names' : List String} (h : Unquoted names)
    (h' : Unquoted names') (hx : x.getLast? ≠ some '"') (hy : y.getLast? ≠ some '"')
    (heq : x ++ listing names = y ++ listing names') : x = y ∧ names = names' := by
  -- the lines are taken off from the end, one of each listing at a time
  induction names using List.reverseRecOn generalizing names' with
  | nil =>
    rcases List.eq_nil_or_concat names' with rfl | ⟨init', last', rfl⟩
    · exact ⟨List.append_cancel_right heq, rfl⟩
    · rw [List.concat_eq_append, listing_concat, ← List.append_assoc, listing_nil,
        List.append_nil] at heq
      rw [heq, getLast?_quoted] at hx
      exact absurd rfl hx
  | append_singleton init last ih =>
    rw [listing_concat, ← List.append_assoc] at heq
    rcases List.eq_nil_or_concat names' with rfl | ⟨init', last', rfl⟩
    · rw [listing_nil, List.append_nil] at heq
      rw [← heq, getLast?_quoted] at hy
      exact absurd rfl hy
    · rw [List.concat_eq_append] at h' heq ⊢
      rw [listing_concat, ← List.append_assoc y] at heq
      obtain ⟨hfront, rfl⟩ := quoted_end_inj (h last (by simp)) (h' last' (by simp)) heq
      rw [← List.append_assoc, ← List.append_assoc] at hfront
      obtain ⟨rfl, rfl⟩ := ih (fun name hname => h name (List.mem_append_left _ hname))
        (fun name hname => h' name (List.mem_append_left _ hname)) (List.append_cancel_right hfront)
      exact ⟨rfl, rfl⟩

/-- What a citation holds before its last name, with the names before that one. -/
def opening : List String → List Char
  | [] => "assertion ".toList
  | earlier => "assertions".toList ++ listing earlier ++ ['\n', '\t']

theorem opening_nil : opening [] = "assertion ".toList := rfl

theorem opening_cons (name : String) (rest : List String) :
    opening (name :: rest) = "assertions".toList ++ listing (name :: rest) ++ ['\n', '\t'] := rfl

theorem citationChars_concat (earlier : List String) (last : String) :
    citationChars (earlier ++ [last]) = opening earlier ++ '"' :: (last.toList ++ ['"']) := by
  cases earlier with
  | nil => rfl
  | cons name rest =>
    have hlist : citationChars (name :: rest ++ [last]) =
        "assertions".toList ++ listing (name :: rest ++ [last]) := by
      cases rest <;> rfl
    rw [hlist, listing_concat, opening_cons, ← List.append_assoc, ← List.append_assoc]

theorem opening_inj {x y : List Char} {earlier earlier' : List String} (h : Unquoted earlier)
    (h' : Unquoted earlier') (heq : x ++ opening earlier = y ++ opening earlier') :
    x = y ∧ earlier = earlier' := by
  have hspace : ∀ z : List Char, (z ++ opening []).getLast? = some ' ' :=
    fun z => by simp [opening_nil]
  have htab : ∀ (z : List Char) name rest, (z ++ opening (name :: rest)).getLast? = some '\t' :=
    fun z name rest => by
      rw [opening_cons, ← List.append_assoc, List.getLast?_append]
      rfl
  cases earlier with
  | nil =>
    cases earlier' with
    | nil => exact ⟨List.append_cancel_right heq, rfl⟩
    | cons name rest =>
      have hlast := congrArg List.getLast? heq
      rw [hspace, htab] at hlast
      exact absurd hlast (by decide)
  | cons name rest =>
    cases earlier' with
    | nil =>
      have hlast := congrArg List.getLast? heq
      rw [hspace, htab] at hlast
      exact absurd hlast (by decide)
    | cons name' rest' =>
      rw [opening_cons, opening_cons, ← List.append_assoc, ← List.append_assoc, ← List.append_assoc,
        ← List.append_assoc] at heq
      have hplain : ∀ z : List Char, (z ++ "assertions".toList).getLast? ≠ some '"' :=
        fun z => by simp
      obtain ⟨hfront, hnames⟩ :=
        listing_inj h h' (hplain x) (hplain y) (List.append_cancel_right heq)
      exact ⟨List.append_cancel_right hfront, hnames⟩

/-- A text that ends in a citation determines the citation. -/
theorem citation_inj {x y : List Char} {names names' : List String} (h : Unquoted names)
    (h' : Unquoted names')
    (heq : x ++ "] for ".toList ++ citationChars names =
      y ++ "] for ".toList ++ citationChars names') : x = y ∧ names = names' := by
  have hnone : ∀ z : List Char, (z ++ "] for ".toList ++ citationChars []).getLast? = some 's' :=
    fun z => by simp [citationChars_nil]
  rcases List.eq_nil_or_concat names with rfl | ⟨earlier, last, rfl⟩
  · rcases List.eq_nil_or_concat names' with rfl | ⟨earlier', last', rfl⟩
    · exact ⟨List.append_cancel_right (List.append_cancel_right heq), rfl⟩
    · have hlast := congrArg List.getLast? heq
      rw [List.concat_eq_append, citationChars_concat, ← List.append_assoc, hnone,
        getLast?_quoted] at hlast
      exact absurd hlast (by decide)
  · rw [List.concat_eq_append] at h heq ⊢
    rw [citationChars_concat, ← List.append_assoc] at heq
    rcases List.eq_nil_or_concat names' with rfl | ⟨earlier', last', rfl⟩
    · have hlast := congrArg List.getLast? heq
      rw [hnone, getLast?_quoted] at hlast
      exact absurd hlast (by decide)
    · rw [List.concat_eq_append] at h' heq ⊢
      rw [citationChars_concat, ← List.append_assoc] at heq
      obtain ⟨hfront, rfl⟩ := quoted_end_inj (h last (by simp)) (h' last' (by simp)) heq
      obtain ⟨hvalue, rfl⟩ := opening_inj (fun name hname => h name (List.mem_append_left _ hname))
        (fun name hname => h' name (List.mem_append_left _ hname)) hfront
      exact ⟨List.append_cancel_right hvalue, rfl⟩

/-! ## Messages of violations -/

/-- The parts of a message. -/
theorem toList_message (v : Violation) :
    v.message.toList =
      v.clause.keyword.toList ++ ("-clause failed to ensure state of variable with index ".toList ++
        (Nat.toDigits 10 v.index ++ ' ' :: ("[value: ".toList ++
          (v.value.toList ++ "] for ".toList ++ citationChars v.cited)))) := by
  simp only [message, String.toList_append, toList_citation, Nat.repr_eq_ofList_toDigits,
    String.toList_ofList, List.append_assoc]
  rfl

/-- The message of a violation determines the violation. -/
theorem message_inj {v w : Violation} (hv : Unquoted v.cited) (hw : Unquoted w.cited)
    (h : v.message = w.message) : v = w := by
  have hchars := congrArg String.toList h
  rw [toList_message, toList_message] at hchars
  have hclause : v.clause = w.clause := by
    have hhead := congrArg List.head? hchars
    cases hcv : v.clause <;> cases hcw : w.clause <;> simp [hcv, hcw, Clause.keyword] at hhead ⊢
  rw [hclause] at hchars
  have hdigits : ∀ n : Nat, ' ' ∉ Nat.toDigits 10 n := by
    intro n hmem
    exact absurd (Nat.isDigit_of_mem_toDigits (by decide) (by decide) hmem) (by decide)
  obtain ⟨hindex, hrest⟩ := append_cons_inj (hdigits v.index) (hdigits w.index)
    (List.append_cancel_left (List.append_cancel_left hchars))
  obtain ⟨hvalue, hcited⟩ := citation_inj hv hw (List.append_cancel_left hrest)
  obtain ⟨clause, index, value, cited⟩ := v
  cases hclause
  cases Text.toDigits_inj (by decide) (by decide) hindex
  cases String.toList_inj.1 hvalue
  cases hcited
  rfl

end Violation

/-! ## Messages of errors -/

namespace ContractError

/-- No display name that is cited in the error holds a quotation mark. -/
def CitesUnquoted (e : ContractError) : Prop :=
  ∀ v, e.violation? = some v → Violation.Unquoted v.cited

/-- The character that a message begins with. -/
def initial : ContractError → Char
  | duplicateName _ => 'c'
  | invalidName _ => 'c'
  | unknownAssertion _ => 'n'
  | violated v => match v.clause with
    | .must => 'm'
    | .either => 'e'

theorem message_duplicateName (name : String) :
    (duplicateName name).message = "cannot register assertion \"" ++ name ++
      "\" since an assertion with the same name already exists" := rfl

theorem message_invalidName (name : String) :
    (invalidName name).message =
      "cannot register assertion with invalid name " ++ Text.quoted name := rfl

theorem message_unknownAssertion (name : String) :
    (unknownAssertion name).message = "no assertion registered under \"" ++ name ++ "\"" := rfl

theorem head?_message (e : ContractError) : e.message.toList.head? = some e.initial := by
  cases e with
  | duplicateName name => simp [message_duplicateName, initial]
  | invalidName name => simp [message_invalidName, initial]
  | unknownAssertion name => simp [message_unknownAssertion, initial]
  | violated v =>
    show v.message.toList.head? = _
    rw [Violation.toList_message, initial]
    cases v.clause <;> simp [Clause.keyword]

theorem isViolation_iff_initial {e : ContractError} :
    e.isViolation = true ↔ e.initial = 'm' ∨ e.initial = 'e' := by
  cases e with
  | duplicateName name => simp [isViolation, violation?, initial]
  | invalidName name => simp [isViolation, violation?, initial]
  | unknownAssertion name => simp [isViolation, violation?, initial]
  | violated v =>
    refine iff_of_true rfl ?_
    rw [initial]
    cases v.clause
    · exact .inl rfl
    · exact .inr rfl

/-- A name that is taken is quoted at the place where a name that is blank is called so. -/
theorem message_duplicateName_ne_invalidName (name name' : String) :
    (duplicateName name).message ≠ (invalidName name').message := by
  intro h
  have hchars := congrArg (fun text => text.toList[26]?) h
  simp [message_duplicateName, message_invalidName] at hchars

/-- A name between two fixed texts is determined by the whole. -/
theorem append_append_inj {before after name name' : String}
    (h : before ++ name ++ after = before ++ name' ++ after) : name = name' := by
  have hchars := congrArg String.toList h
  simp only [String.toList_append, List.append_assoc] at hchars
  exact String.toList_inj.1 (List.append_cancel_right (List.append_cancel_left hchars))

/-- **Messages tell errors apart.** Two errors whose display names hold no quotation marks have
the same message only if they are the same: of one kind, and about the same name, or about the same
clause, place, value and assertions. -/
theorem message_eq_iff {e f : ContractError} (he : e.CitesUnquoted) (hf : f.CitesUnquoted) :
    e.message = f.message ↔ e = f := by
  refine ⟨fun h => ?_, fun h => congrArg message h⟩
  have hinitial : e.initial = f.initial := by
    have hhead := congrArg (fun text => text.toList.head?) h
    rw [head?_message, head?_message] at hhead
    exact Option.some.inj hhead
  have hviolation : e.isViolation = f.isViolation := by
    rw [Bool.eq_iff_iff, isViolation_iff_initial, isViolation_iff_initial, hinitial]
  cases e with
  | duplicateName name =>
    cases f with
    | duplicateName name' =>
      rw [message_duplicateName, message_duplicateName] at h
      exact congrArg duplicateName (append_append_inj h)
    | invalidName name' => exact absurd h (message_duplicateName_ne_invalidName name name')
    | unknownAssertion name' => cases hinitial
    | violated w => cases hviolation
  | invalidName name =>
    cases f with
    | duplicateName name' => exact absurd h.symm (message_duplicateName_ne_invalidName name' name)
    | invalidName name' =>
      rw [message_invalidName, message_invalidName] at h
      exact congrArg invalidName (Text.quoted_inj ((String.append_right_inj _).1 h))
    | unknownAssertion name' => cases hinitial
    | violated w => cases hviolation
  | unknownAssertion name =>
    cases f with
    | duplicateName name' => cases hinitial
    | invalidName name' => cases hinitial
    | unknownAssertion name' =>
      rw [message_unknownAssertion, message_unknownAssertion] at h
      exact congrArg unknownAssertion (append_append_inj h)
    | violated w => cases hviolation
  | violated v =>
    cases f with
    | duplicateName name' => cases hviolation
    | invalidName name' => cases hviolation
    | unknownAssertion name' => cases hviolation
    | violated w => exact congrArg violated (Violation.message_inj (he v rfl) (hf w rfl) h)

/-- The text of a value that imitates the citation behind it. -/
theorem message_ne_of_imitation :
    (violated ⟨.must, 0, "x] for assertion \"number\"", []⟩).message ≠
      (violated ⟨.must, 0, "x", ["number"]⟩).message := by
  have hv : (violated ⟨.must, 0, "x] for assertion \"number\"", []⟩).CitesUnquoted := by
    rintro _ ⟨⟩ name hname
    cases hname
  have hw : (violated ⟨.must, 0, "x", ["number"]⟩).CitesUnquoted := by
    rintro _ ⟨⟩ name hname
    rw [List.mem_singleton.1 hname]
    decide
  intro h
  exact absurd ((message_eq_iff hv hw).1 h) (by decide)

end ContractError

end RuntimeContracts
