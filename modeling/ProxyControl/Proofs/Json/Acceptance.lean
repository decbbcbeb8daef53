import ProxyControl.Proofs.Json.Grammar
import ProxyControl.Proofs.Json.Reach

/-!
# What the reader accepts

The reader accepts the spellings of values that are not nested too deeply, and nothing else, and
it gives the value that is spelled.

Main results:

- Theorem `spells_of_readValue`: what is read is spelled by what is taken off the text.
- Theorem `Spells.readValue`: a spelling is read, in front of any text that ends a number.
- Theorem `ofText?_eq_some_iff`: the texts that are read, and as which values.
- Theorem `stands_int_iff`: the texts of an integer.
-/

namespace ProxyControl
namespace Json

/-! ## Blanks -/

section Gaps

variable {gap cs : List Char}

/-- Nothing is a gap. -/
theorem gap_nil : Gap [] := by
  simp [Gap]

/-- Two gaps one after the other are a gap. -/
theorem Gap.append {before after : List Char} (h : Gap before) (h' : Gap after) :
    Gap (before ++ after) := by
  intro c hc
  rcases List.mem_append.1 hc with hc | hc
  · exact h c hc
  · exact h' c hc

/-- A gap in front of a text is skipped with the blanks of the text. -/
theorem skipGap_append (h : Gap gap) (cs : List Char) : skipGap (gap ++ cs) = skipGap cs :=
  List.dropWhile_append_of_pos h

/-- Nothing is skipped where no blank stands. -/
theorem skipGap_cons {c : Char} (h : isGap c = false) (cs : List Char) :
    skipGap (c :: cs) = c :: cs := by
  simp [skipGap, h]

/-- A text is skipped to its end just when it is a gap. -/
theorem skipGap_eq_nil_iff : skipGap cs = [] ↔ Gap cs := by
  simp [skipGap, Gap]

/-- What is skipped are blanks. -/
theorem exists_gap (cs : List Char) : ∃ gap, Gap gap ∧ cs = gap ++ skipGap cs :=
  ⟨cs.takeWhile isGap, fun _ hc => List.mem_takeWhile_imp hc, by simp [skipGap]⟩

/-- A gap in front of a value does not count. -/
theorem readValue_gap (h : Gap gap) (fuel depth : Nat) (cs : List Char) :
    readValue fuel depth (gap ++ cs) = readValue fuel depth cs := by
  cases fuel with
  | zero => rfl
  | succ fuel => rw [readValue, readValue, skipGap_append h]

/-- A gap in front of the items of an array does not count. -/
theorem readItems_gap (h : Gap gap) (fuel depth : Nat) (cs : List Char) :
    readItems fuel depth (gap ++ cs) = readItems fuel depth cs := by
  cases fuel with
  | zero => rfl
  | succ fuel => rw [readItems, readItems, readValue_gap h]

/-- A gap in front of the members of an object does not count. -/
theorem readMembers_gap (h : Gap gap) (fuel depth : Nat) (cs : List Char) :
    readMembers fuel depth (gap ++ cs) = readMembers fuel depth cs := by
  cases fuel with
  | zero => rfl
  | succ fuel => rw [readMembers, readMembers, skipGap_append h]

/-- The items of an array are the same when the blanks have been skipped already. -/
theorem readItems_skipGap (fuel depth : Nat) (cs : List Char) :
    readItems fuel depth (skipGap cs) = readItems fuel depth cs := by
  obtain ⟨gap, hgap, hcs⟩ := exists_gap cs
  conv_rhs => rw [hcs, readItems_gap hgap]

/-- The members of an object are the same when the blanks have been skipped already. -/
theorem readMembers_skipGap (fuel depth : Nat) (cs : List Char) :
    readMembers fuel depth (skipGap cs) = readMembers fuel depth cs := by
  obtain ⟨gap, hgap, hcs⟩ := exists_gap cs
  conv_rhs => rw [hcs, readMembers_gap hgap]

/-- No character of a number is a blank. -/
theorem isGap_of_isNumberChar {c : Char} (h : isNumberChar c = true) : isGap c = false := by
  simp only [isGap, Bool.or_eq_false_iff, decide_eq_false_iff_not]
  refine ⟨⟨⟨?_, ?_⟩, ?_⟩, ?_⟩ <;> rintro rfl <;> revert h <;> decide

/-- Blanks end a number. -/
theorem Gap.endsNumber (h : Gap gap) {rest : List Char} (hrest : EndsNumber rest) :
    EndsNumber (gap ++ rest) := by
  cases gap with
  | nil => exact hrest
  | cons c gap =>
      refine (endsNumber_cons _ _).2 (Bool.eq_false_iff.2 fun hnumber => ?_)
      have hgap := h c List.mem_cons_self
      rw [isGap_of_isNumberChar hnumber] at hgap
      cases hgap

/-- A spelling stands for its value without any gaps. -/
theorem Spells.stands {v : Json} (h : Spells cs v) : Stands cs v := by
  simpa using Stands.mk gap_nil h gap_nil

/-- A gap in front of a text leaves what it stands for. -/
theorem Stands.gap_append {v : Json} (hgap : Gap gap) (h : Stands cs v) : Stands (gap ++ cs) v := by
  cases h with
  | mk hbefore h hafter =>
      rw [← List.append_assoc]
      exact .mk (hgap.append hbefore) h hafter

/-- A gap in front of the items belongs to the first item. -/
theorem SpellsItems.gap_append {items : List Json} (hgap : Gap gap) (h : SpellsItems cs items) :
    SpellsItems (gap ++ cs) items := by
  cases h with
  | last h => exact .last (h.gap_append hgap)
  | more h hrest =>
      rw [← List.append_assoc]
      exact .more (h.gap_append hgap) hrest

/-- A gap in front of a key belongs to it. -/
theorem SpellsKey.gap_append {key : String} (hgap : Gap gap) (h : SpellsKey cs key) :
    SpellsKey (gap ++ cs) key := by
  cases h with
  | mk hbefore h hafter =>
      rw [← List.append_assoc]
      exact .mk (hgap.append hbefore) h hafter

/-- A gap in front of the members belongs to the first key. -/
theorem SpellsMembers.gap_append {members : List (String × Json)} (hgap : Gap gap)
    (h : SpellsMembers cs members) : SpellsMembers (gap ++ cs) members := by
  cases h with
  | last hkey h =>
      rw [← List.append_assoc]
      exact .last (hkey.gap_append hgap) h
  | more hkey h hrest =>
      rw [← List.append_assoc]
      exact .more (hkey.gap_append hgap) h hrest

end Gaps

/-! ## What is read is spelled -/

section Reading

variable {fuel depth : Nat} {cs rest : List Char}

/-- A value that is spelled before blanks and a mark stands before the mark. -/
theorem stands_of_spells {before part left : List Char} {mark : Char} {v : Json}
    (hbefore : Gap before) (h : Spells part v) (hcs : cs = before ++ (part ++ left))
    (hmark : skipGap left = mark :: rest) : ∃ text, Stands text v ∧ cs = text ++ mark :: rest := by
  obtain ⟨after, hafter, hleft⟩ := exists_gap left
  refine ⟨before ++ (part ++ after), .mk hbefore h hafter, ?_⟩
  rw [hcs, hleft, hmark]
  simp

mutual

/-- What is read is spelled by what is taken off the text.  The induction is on the bound of the
recursion. -/
theorem spells_of_readValue {fuel depth : Nat} {cs rest : List Char} {v : Json}
    (h : readValue fuel depth cs = some (v, rest)) :
    ∃ before part, Gap before ∧ Spells part v ∧ cs = before ++ (part ++ rest) := by
  match fuel with
  | 0 => cases h
  | fuel + 1 =>
      obtain ⟨before, hbefore, hcs⟩ := exists_gap cs
      -- It is enough to find the spelling behind the blanks.
      suffices ∃ part, Spells part v ∧ skipGap cs = part ++ rest by
        obtain ⟨part, hpart, heq⟩ := this
        exact ⟨before, part, hbefore, hpart, by rw [← heq, ← hcs]⟩
      unfold readValue at h
      split at h
      case h_1 heq =>
        obtain ⟨rfl, rfl⟩ := Prod.mk.inj (Option.some.inj h)
        exact ⟨_, .null, heq⟩
      case h_2 heq =>
        obtain ⟨rfl, rfl⟩ := Prod.mk.inj (Option.some.inj h)
        exact ⟨_, .true, heq⟩
      case h_3 heq =>
        obtain ⟨rfl, rfl⟩ := Prod.mk.inj (Option.some.inj h)
        exact ⟨_, .false, heq⟩
      case h_4 tail heq =>
        obtain ⟨⟨content, left⟩, hread, h⟩ := Option.map_eq_some_iff.1 h
        obtain ⟨rfl, rfl⟩ := Prod.mk.inj h
        obtain ⟨part, hpart, rfl⟩ := spellsString_of_readString hread
        exact ⟨_, .string hpart, by simp [heq]⟩
      case h_5 tail heq =>
        split at h
        case h_1 => cases h
        case h_2 depth =>
        obtain ⟨gap, hgap, htail⟩ := exists_gap tail
        split at h
        case h_1 close =>
          obtain ⟨rfl, rfl⟩ := Prod.mk.inj (Option.some.inj h)
          exact ⟨_, .emptyArray hgap, by rw [heq, htail, close]; simp⟩
        case h_2 =>
          obtain ⟨⟨items, left⟩, hitems, h⟩ := Option.map_eq_some_iff.1 h
          obtain ⟨rfl, rfl⟩ := Prod.mk.inj h
          obtain ⟨part, hpart, hsplit⟩ := spells_of_readItems hitems
          exact ⟨_, .array (hpart.gap_append hgap), by rw [heq, htail, hsplit]; simp⟩
      case h_6 tail heq =>
        split at h
        case h_1 => cases h
        case h_2 depth =>
        obtain ⟨gap, hgap, htail⟩ := exists_gap tail
        split at h
        case h_1 close =>
          obtain ⟨rfl, rfl⟩ := Prod.mk.inj (Option.some.inj h)
          exact ⟨_, .emptyObject hgap, by rw [heq, htail, close]; simp⟩
        case h_2 =>
          obtain ⟨⟨members, left⟩, hmembers, h⟩ := Option.map_eq_some_iff.1 h
          obtain ⟨rfl, rfl⟩ := Prod.mk.inj h
          obtain ⟨part, hpart, hsplit⟩ := spells_of_readMembers hmembers
          exact ⟨_, .object (hpart.gap_append hgap), by rw [heq, htail, hsplit]; simp⟩
      case h_7 =>
        obtain ⟨part, hpart, heq⟩ := spellsNumber_of_readNumber h
        exact ⟨part, .number hpart, heq⟩

/-- Items that are read are spelled by what is taken off the text. -/
theorem spells_of_readItems {fuel depth : Nat} {cs rest : List Char} {items : List Json}
    (h : readItems fuel depth cs = some (items, rest)) :
    ∃ part, SpellsItems part items ∧ cs = part ++ ']' :: rest := by
  match fuel with
  | 0 => cases h
  | fuel + 1 =>
      unfold readItems at h
      split at h
      case h_1 => cases h
      case h_2 hvalue =>
      obtain ⟨before, part, hbefore, hpart, hcs⟩ := spells_of_readValue hvalue
      split at h
      case h_1 hmark =>
        obtain ⟨rfl, rfl⟩ := Prod.mk.inj (Option.some.inj h)
        obtain ⟨text, htext, hcs⟩ := stands_of_spells hbefore hpart hcs hmark
        exact ⟨text, .last htext, hcs⟩
      case h_2 hmark =>
        obtain ⟨⟨items, left⟩, hitems, h⟩ := Option.map_eq_some_iff.1 h
        obtain ⟨rfl, rfl⟩ := Prod.mk.inj h
        obtain ⟨text, htext, hcs⟩ := stands_of_spells hbefore hpart hcs hmark
        obtain ⟨others, hothers, hsplit⟩ := spells_of_readItems hitems
        exact ⟨_, .more htext hothers, by rw [hcs, hsplit]; simp⟩
      case h_3 => cases h

/-- Members that are read are spelled by what is taken off the text. -/
theorem spells_of_readMembers {fuel depth : Nat} {cs rest : List Char}
    {members : List (String × Json)} (h : readMembers fuel depth cs = some (members, rest)) :
    ∃ part, SpellsMembers part members ∧ cs = part ++ '\x7d' :: rest := by
  match fuel with
  | 0 => cases h
  | fuel + 1 =>
      obtain ⟨gap, hgap, hquote⟩ := exists_gap cs
      unfold readMembers at h
      split at h
      case h_2 => cases h
      case h_1 tail hopen =>
      split at h
      case h_1 => cases h
      case h_2 content left hread =>
      obtain ⟨part, hpart, rfl⟩ := spellsString_of_readString hread
      split at h
      case h_2 => cases h
      case h_1 behind hcolon =>
      obtain ⟨after, hafter, hleft⟩ := exists_gap left
      have hkey := SpellsKey.mk hgap hpart hafter
      split at h
      case h_1 => cases h
      case h_2 value left' hvalue =>
      obtain ⟨before, part', hbefore, hpart', hbehind⟩ := spells_of_readValue hvalue
      simp only at h
      split at h
      case h_1 hmark =>
        obtain ⟨rfl, rfl⟩ := Prod.mk.inj (Option.some.inj h)
        obtain ⟨text, htext, htail⟩ := stands_of_spells hbefore hpart' hbehind hmark
        exact ⟨_, .last hkey htext, by rw [hquote, hopen, hleft, hcolon, htail]; simp⟩
      case h_2 hmark =>
        obtain ⟨⟨members, left⟩, hmembers, h⟩ := Option.map_eq_some_iff.1 h
        obtain ⟨rfl, rfl⟩ := Prod.mk.inj h
        obtain ⟨text, htext, htail⟩ := stands_of_spells hbefore hpart' hbehind hmark
        obtain ⟨others, hothers, hsplit⟩ := spells_of_readMembers hmembers
        exact ⟨_, .more hkey htext hothers,
          by rw [hquote, hopen, hleft, hcolon, htail, hsplit]; simp⟩
      case h_3 => cases h

end

end Reading

/-! ## What is spelled is read -/

/-- Where a character of a number stands, a number is read. -/
theorem readValue_of_isNumberChar {c : Char} (h : isNumberChar c = true) (cs : List Char)
    (fuel depth : Nat) : readValue (fuel + 1) depth (c :: cs) = readNumber (c :: cs) := by
  rw [readValue, skipGap_cons (isGap_of_isNumberChar h)]
  split
  case h_7 => rfl
  all_goals
    rename_i heq
    cases heq
    exact absurd h (by decide)

/-- A number is read in front of any text that ends it. -/
theorem SpellsNumber.readValue {cs rest : List Char} {v : Json} (h : SpellsNumber cs v)
    (fuel depth : Nat) (hrest : EndsNumber rest) :
    readValue (fuel + 1) depth (cs ++ rest) = some (v, rest) := by
  have hnumber : Json.readNumber (cs ++ rest) = some (v, rest) := by
    rw [readNumber_append hrest, h.readNumber]
    rfl
  cases cs with
  | nil => exact absurd rfl h.ne_nil
  | cons c cs =>
      rw [List.cons_append, readValue_of_isNumberChar (h.isNumberChar c List.mem_cons_self)]
      exact hnumber

/-- What stands at the front of a value: neither a blank nor a bracket that closes an array. -/
def Begins (cs : List Char) : Prop :=
  ∃ c tail, cs = c :: tail ∧ isGap c = false ∧ c ≠ ']'

/-- No spelling begins with a blank or a closing bracket. -/
theorem Spells.begins {cs : List Char} {v : Json} (h : Spells cs v) : Begins cs := by
  cases h with
  | number h =>
      cases cs with
      | nil => exact absurd rfl h.ne_nil
      | cons c tail =>
          have hc := h.isNumberChar c List.mem_cons_self
          refine ⟨c, tail, rfl, isGap_of_isNumberChar hc, ?_⟩
          rintro rfl
          cases hc
  | _ => exact ⟨_, _, rfl, by decide, by decide⟩

/-- An array that is not empty is read item by item. -/
theorem readValue_arr {cs : List Char} (h : ∀ tail, skipGap cs ≠ ']' :: tail) (fuel depth : Nat) :
    readValue (fuel + 1) (depth + 1) ('[' :: cs) =
      (readItems fuel depth cs).map fun r => (arr r.1, r.2) := by
  rw [readValue, skipGap_cons (by decide)]
  simp only
  rw [readItems_skipGap]

/-- An object that is not empty is read member by member. -/
theorem readValue_obj {cs : List Char} (h : ∀ tail, skipGap cs ≠ '\x7d' :: tail)
    (fuel depth : Nat) : readValue (fuel + 1) (depth + 1) ('\x7b' :: cs) =
      (readMembers fuel depth cs).map fun r => (obj r.1, r.2) := by
  rw [readValue, skipGap_cons (by decide)]
  simp only
  rw [readMembers_skipGap]

/-- The closing bracket behind an item ends the array. -/
theorem readItems_last {fuel depth : Nat} {cs left rest : List Char} {item : Json}
    (h : readValue fuel depth cs = some (item, left)) (hmark : skipGap left = ']' :: rest) :
    readItems (fuel + 1) depth cs = some ([item], rest) := by
  simp [readItems, h, hmark]

/-- A comma behind an item is followed by more items. -/
theorem readItems_more {fuel depth : Nat} {cs left behind rest : List Char} {item : Json}
    {items : List Json} (h : readValue fuel depth cs = some (item, left))
    (hmark : skipGap left = ',' :: behind)
    (hrest : readItems fuel depth behind = some (items, rest)) :
    readItems (fuel + 1) depth cs = some (item :: items, rest) := by
  simp [readItems, h, hmark, hrest]

/-- A key is read up to the colon behind it. -/
theorem SpellsKey.exists_readString {head : List Char} {key : String} (h : SpellsKey head key)
    (cs : List Char) : ∃ tail content left, skipGap (head ++ ':' :: cs) = '"' :: tail ∧
      readString tail = some (content, left) ∧ skipGap left = ':' :: cs ∧
      key = String.ofList content := by
  cases h with
  | mk hbefore h hafter =>
      rename_i before part content after
      refine ⟨_, content, after ++ ':' :: cs, ?_, h.readString _, ?_, rfl⟩
      · rw [List.append_assoc, skipGap_append hbefore, List.cons_append, List.append_assoc,
          List.cons_append, skipGap_cons (by decide)]
      · rw [skipGap_append hafter, skipGap_cons (by decide)]

/-- The closing brace behind a member ends the object. -/
theorem readMembers_last {fuel depth : Nat} {head cs left rest : List Char} {key : String}
    {value : Json} (hkey : SpellsKey head key) (h : readValue fuel depth cs = some (value, left))
    (hmark : skipGap left = '\x7d' :: rest) :
    readMembers (fuel + 1) depth (head ++ ':' :: cs) = some ([(key, value)], rest) := by
  obtain ⟨tail, content, behind, hquote, hstring, hcolon, rfl⟩ := hkey.exists_readString cs
  simp [readMembers, hquote, hstring, hcolon, h, hmark]

/-- A comma behind a member is followed by more members. -/
theorem readMembers_more {fuel depth : Nat} {head cs left behind rest : List Char} {key : String}
    {value : Json} {members : List (String × Json)} (hkey : SpellsKey head key)
    (h : readValue fuel depth cs = some (value, left)) (hmark : skipGap left = ',' :: behind)
    (hrest : readMembers fuel depth behind = some (members, rest)) :
    readMembers (fuel + 1) depth (head ++ ':' :: cs) = some ((key, value) :: members, rest) := by
  obtain ⟨tail, content, before, hquote, hstring, hcolon, rfl⟩ := hkey.exists_readString cs
  simp [readMembers, hquote, hstring, hcolon, h, hmark, hrest]

/-- Items are neither blank nor at their end. -/
theorem SpellsItems.skipGap_ne {cs : List Char} {items : List Json} (h : SpellsItems cs items)
    (rest tail : List Char) : skipGap (cs ++ rest) ≠ ']' :: tail := by
  have hstands {cs : List Char} {v : Json} (h : Stands cs v) (rest : List Char) :
      skipGap (cs ++ rest) ≠ ']' :: tail := by
    cases h with
    | mk hbefore h _ =>
        obtain ⟨c, others, rfl, hgap, hclose⟩ := h.begins
        rw [List.append_assoc, skipGap_append hbefore, List.cons_append, List.cons_append,
          skipGap_cons hgap]
        intro heq
        exact hclose (List.cons.inj heq).1
  cases h with
  | last h => exact hstands h rest
  | more h _ =>
      rw [List.append_assoc]
      exact hstands h _

/-- Members are neither blank nor at their end. -/
theorem SpellsMembers.skipGap_ne {cs : List Char} {members : List (String × Json)}
    (h : SpellsMembers cs members) (rest tail : List Char) :
    skipGap (cs ++ rest) ≠ '\x7d' :: tail := by
  have hkey {head : List Char} {key : String} (h : SpellsKey head key) (rest : List Char) :
      skipGap (head ++ rest) ≠ '\x7d' :: tail := by
    cases h with
    | mk hbefore _ _ =>
        rw [List.append_assoc, skipGap_append hbefore, List.cons_append,
          skipGap_cons (by decide)]
        simp
  cases h with
  | last h _ =>
      rw [List.append_assoc]
      exact hkey h _
  | more h _ _ =>
      rw [List.append_assoc]
      exact hkey h _

mutual

/-- A spelling is read in front of any text that ends a number.  Two steps of the recursion for
each character are enough. -/
theorem Spells.readValue {cs : List Char} {v : Json} (h : Spells cs v) {fuel depth : Nat}
    (hfuel : 2 * cs.length + 1 ≤ fuel) (hdepth : v.depth ≤ depth) {rest : List Char}
    (hrest : EndsNumber rest) : readValue fuel depth (cs ++ rest) = some (v, rest) := by
  obtain ⟨fuel, rfl⟩ : ∃ k, fuel = k + 1 := ⟨fuel - 1, by omega⟩
  match h with
  | .null => simp [Json.readValue, skipGap, isGap]
  | .true => simp [Json.readValue, skipGap, isGap]
  | .false => simp [Json.readValue, skipGap, isGap]
  | .number h => exact h.readValue fuel depth hrest
  | .string h =>
      rw [List.cons_append, List.append_assoc, Json.readValue, skipGap_cons (by decide)]
      simp [h.readString]
  | .emptyArray hgap =>
      obtain ⟨depth, rfl⟩ : ∃ k, depth = k + 1 := ⟨depth - 1, by simp [Json.depth] at hdepth; omega⟩
      rw [List.cons_append, List.append_assoc, Json.readValue, skipGap_cons (by decide)]
      simp [skipGap_append hgap, skipGap_cons (show isGap ']' = false by decide)]
  | .array h =>
      simp only [Json.depth] at hdepth
      obtain ⟨depth, rfl⟩ : ∃ k, depth = k + 1 := ⟨depth - 1, by omega⟩
      simp only [List.length_cons, List.length_append, List.length_nil] at hfuel
      have hitems := h.readItems (show _ ≤ fuel by omega) (Nat.le_of_succ_le_succ hdepth) rest
      rw [List.cons_append, List.append_assoc, readValue_arr (h.skipGap_ne _)]
      simp [hitems]
  | .emptyObject hgap =>
      obtain ⟨depth, rfl⟩ : ∃ k, depth = k + 1 := ⟨depth - 1, by simp [Json.depth] at hdepth; omega⟩
      rw [List.cons_append, List.append_assoc, Json.readValue, skipGap_cons (by decide)]
      simp [skipGap_append hgap, skipGap_cons (show isGap '\x7d' = false by decide)]
  | .object h =>
      simp only [Json.depth] at hdepth
      obtain ⟨depth, rfl⟩ : ∃ k, depth = k + 1 := ⟨depth - 1, by omega⟩
      simp only [List.length_cons, List.length_append, List.length_nil] at hfuel
      have hmembers := h.readMembers (show _ ≤ fuel by omega) (Nat.le_of_succ_le_succ hdepth) rest
      rw [List.cons_append, List.append_assoc, readValue_obj (h.skipGap_ne _)]
      simp [hmembers]

/-- A text that stands for a value is read as that value, up to a gap behind it. The fuel covers two
steps for each character. -/
theorem Stands.readValue {cs : List Char} {v : Json} (h : Stands cs v) {fuel depth : Nat}
    (hfuel : 2 * cs.length + 1 ≤ fuel) (hdepth : v.depth ≤ depth) {rest : List Char}
    (hrest : EndsNumber rest) :
    ∃ gap, Gap gap ∧ readValue fuel depth (cs ++ rest) = some (v, gap ++ rest) := by
  match h with
  | .mk hbefore h hafter =>
      rename_i before part after
      simp only [List.length_append] at hfuel
      refine ⟨after, hafter, ?_⟩
      rw [List.append_assoc, List.append_assoc, readValue_gap hbefore]
      exact h.readValue (by omega) hdepth (hafter.endsNumber hrest)

/-- The spelling of items is read as these items. -/
theorem SpellsItems.readItems {cs : List Char} {items : List Json} (h : SpellsItems cs items)
    {fuel depth : Nat} (hfuel : 2 * cs.length + 2 ≤ fuel) (hdepth : itemsDepth items ≤ depth)
    (rest : List Char) : readItems fuel depth (cs ++ ']' :: rest) = some (items, rest) := by
  obtain ⟨fuel, rfl⟩ : ∃ k, fuel = k + 1 := ⟨fuel - 1, by omega⟩
  match h with
  | .last h =>
      have hmark : EndsNumber (']' :: rest) := by simp [isNumberChar]
      obtain ⟨gap, hgap, hread⟩ :=
        h.readValue (show _ ≤ fuel by omega) (Nat.max_le.1 hdepth).1 hmark
      exact readItems_last hread (by rw [skipGap_append hgap, skipGap_cons (by decide)])
  | .more h hothers =>
      rename_i part others _ _
      simp only [List.length_append, List.length_cons] at hfuel
      have hmark : EndsNumber (',' :: (others ++ ']' :: rest)) := by simp [isNumberChar]
      obtain ⟨gap, hgap, hread⟩ :=
        h.readValue (show _ ≤ fuel by omega) (Nat.max_le.1 hdepth).1 hmark
      rw [List.append_assoc, List.cons_append]
      exact readItems_more hread (by rw [skipGap_append hgap, skipGap_cons (by decide)])
        (hothers.readItems (by omega) (Nat.max_le.1 hdepth).2 rest)

/-- The spelling of members is read as these members. -/
theorem SpellsMembers.readMembers {cs : List Char} {members : List (String × Json)}
    (h : SpellsMembers cs members) {fuel depth : Nat} (hfuel : 2 * cs.length + 2 ≤ fuel)
    (hdepth : membersDepth members ≤ depth) (rest : List Char) :
    readMembers fuel depth (cs ++ '\x7d' :: rest) = some (members, rest) := by
  obtain ⟨fuel, rfl⟩ : ∃ k, fuel = k + 1 := ⟨fuel - 1, by omega⟩
  match h with
  | .last hkey h =>
      simp only [List.length_append, List.length_cons] at hfuel
      have hmark : EndsNumber ('\x7d' :: rest) := by simp [isNumberChar]
      obtain ⟨gap, hgap, hread⟩ :=
        h.readValue (show _ ≤ fuel by omega) (Nat.max_le.1 hdepth).1 hmark
      rw [List.append_assoc, List.cons_append]
      exact readMembers_last hkey hread (by rw [skipGap_append hgap, skipGap_cons (by decide)])
  | .more hkey h hothers =>
      rename_i head part others key _ _
      simp only [List.length_append, List.length_cons] at hfuel
      have hmark : EndsNumber (',' :: (others ++ '\x7d' :: rest)) := by simp [isNumberChar]
      obtain ⟨gap, hgap, hread⟩ :=
        h.readValue (show _ ≤ fuel by omega) (Nat.max_le.1 hdepth).1 hmark
      rw [List.append_assoc, List.cons_append, List.append_assoc, List.cons_append]
      exact readMembers_more hkey hread (by rw [skipGap_append hgap, skipGap_cons (by decide)])
        (hothers.readMembers (by omega) (Nat.max_le.1 hdepth).2 rest)

end

/-! ## Whole texts -/

/-- The texts that are read are the spellings, with blanks around them, of the values that are not
nested too deeply. -/
theorem ofText?_eq_some_iff {text : String} {v : Json} :
    ofText? text = some v ↔ Stands text.toList v ∧ v.depth ≤ maxDepth := by
  constructor
  · intro h
    unfold ofText? at h
    split at h
    case h_1 => cases h
    case h_2 value rest hread =>
    obtain ⟨hend, hv⟩ := Option.ite_none_right_eq_some.1 h
    obtain rfl := Option.some.inj hv
    obtain ⟨before, part, hbefore, hpart, hcs⟩ := spells_of_readValue hread
    rw [hcs]
    exact ⟨.mk hbefore hpart (skipGap_eq_nil_iff.1 (List.isEmpty_iff.1 hend)),
      (reached_of_readValue hread).depth⟩
  · rintro ⟨h, hdepth⟩
    obtain ⟨gap, hgap, hread⟩ :=
      h.readValue (show _ ≤ 2 * text.toList.length + 2 by omega) hdepth endsNumber_nil
    rw [List.append_nil, List.append_nil] at hread
    simp [ofText?, read, hread, skipGap_eq_nil_iff.2 hgap]

/-- A text stands for an integer if it is written like one of 64 bits. -/
theorem stands_int_iff {cs : List Char} {n : Int} :
    Stands cs (.int n) ↔
      IsWord n ∧ ∃ before after, Gap before ∧ Gap after ∧
        cs = before ++ (intChars n ++ after) := by
  constructor
  · intro h
    cases h with
    | mk hbefore h hafter =>
        cases h with
        | number h =>
            cases h with
            | integer hword => exact ⟨hword, _, _, hbefore, hafter, rfl⟩
  · rintro ⟨hword, before, after, hbefore, hafter, rfl⟩
    exact .mk hbefore (.number (.integer hword)) hafter

end Json
end ProxyControl
