import CallContract.Conversion.Collection
import CallContract.Proofs.Text.Pieces

/-!
# ListText — lists survive being written between commas

The items of a text are its trimmed pieces, without the empty ones.  Blanks around the text belong to no item, so it
makes no difference whether brackets stand close to the items or not.  Items that are trimmed already and hold no comma
are given back by the text in which commas join them.
-/

namespace CallContract.Conversion

open CallContract.Text

/-! ## 1. Items -/

/-- A text that can be an item of a list: not empty, with no blanks around it and no comma in it. -/
structure IsItem (s : List Char) : Prop where
  ne_nil : s ≠ []
  trim_eq : trim s = s
  noComma : ',' ∉ s

instance (s : List Char) : Decidable (IsItem s) :=
  decidable_of_iff (s ≠ [] ∧ trim s = s ∧ ',' ∉ s) ⟨fun h => ⟨h.1, h.2.1, h.2.2⟩, fun h => ⟨h.1, h.2, h.3⟩⟩

/-- A piece as an item, unless there is nothing but blanks in it. -/
def item? (piece : List Char) : Option (List Char) := if (trim piece).isEmpty then none else some (trim piece)

/-- The items of a text between commas. -/
def items (s : List Char) : List (List Char) := (splitOnChar ',' s).filterMap item?

/-- A text in brackets. -/
def IsBracketed (s : List Char) : Prop := s.head? = some '[' ∧ s.getLast? = some ']'

instance (s : List Char) : Decidable (IsBracketed s) := inferInstanceAs (Decidable (_ ∧ _))

section

variable {s t piece front back : List Char} {parts : List (List Char)}

theorem itemsOfText_eq (s : List Char) : itemsOfText [','] s = items (withoutBrackets (trim s)) := by
  rw [itemsOfText, splitOn_singleton]
  rfl

theorem item?_of_isItem (h : IsItem s) : item? s = some s := by
  rw [item?, h.trim_eq, if_neg (by simp [h.ne_nil])]

theorem item?_congr (h : trim s = trim t) : item? s = item? t := by rw [item?, item?, h]

theorem isItem_of_item? (hpiece : ',' ∉ piece) (h : item? piece = some s) : IsItem s := by
  obtain ⟨hne, hs⟩ := Option.ite_none_left_eq_some.mp h
  cases hs
  exact ⟨by simpa using hne, trim_trim piece, fun hmem => hpiece (mem_of_mem_trim hmem)⟩

theorem isItem_of_mem_items (h : s ∈ items t) : IsItem s := by
  obtain ⟨piece, hpiece, hs⟩ := List.mem_filterMap.mp h
  exact isItem_of_item? (notMem_of_mem_splitOnChar hpiece) hs

theorem items_of_noComma (h : ',' ∉ s) : items s = (item? s).toList := by
  rw [items, splitOnChar_of_notMem h, List.filterMap_cons, List.filterMap_nil]
  cases item? s <;> rfl

theorem items_append_comma (s t : List Char) : items (s ++ ',' :: t) = items s ++ items t := by
  rw [items, splitOnChar_append_cons, List.filterMap_append, items, items]

theorem noComma_of_blank (h : ∀ c ∈ s, isBlank c = true) : ',' ∉ s := fun hmem => absurd (h ',' hmem) (by decide)

theorem noComma_append (hs : ',' ∉ s) (ht : ',' ∉ t) : ',' ∉ s ++ t := fun hmem => (List.mem_append.mp hmem).elim hs ht

/-- Blanks in front of a text belong to no item. -/
theorem items_append_left (hfront : ∀ c ∈ front, isBlank c = true) (s : List Char) : items (front ++ s) = items s := by
  have hpiece : ∀ piece, ',' ∉ piece → items (front ++ piece) = items piece := by
    intro piece hnone
    rw [items_of_noComma (noComma_append (noComma_of_blank hfront) hnone), items_of_noComma hnone,
      item?_congr (trim_append_left hfront piece)]
  -- Only the first piece is longer.
  induction s using pieces_induction ',' with
  | one piece hnone => exact hpiece piece hnone
  | more piece rest hnone =>
    rw [← List.append_assoc, items_append_comma, items_append_comma, hpiece piece hnone]

/-- Blanks behind a text belong to no item. -/
theorem items_append_right (hback : ∀ c ∈ back, isBlank c = true) (s : List Char) : items (s ++ back) = items s := by
  induction s using pieces_induction ',' with
  | one piece hnone =>
    rw [items_of_noComma (noComma_append hnone (noComma_of_blank hback)), items_of_noComma hnone,
      item?_congr (trim_append_right hback piece)]
  | more piece rest _ ih => rw [List.append_assoc, List.cons_append, items_append_comma, items_append_comma, ih]

theorem items_trim (s : List Char) : items (trim s) = items s := by
  obtain ⟨front, back, hs, hfront, hback⟩ := exists_blanks s
  calc items (trim s) = items (trim s ++ back) := (items_append_right hback _).symm
    _ = items (front ++ (trim s ++ back)) := (items_append_left hfront _).symm
    _ = items s := by rw [← hs]

/-! ## 2. Brackets -/

theorem withoutBrackets_of_bracketed (h : IsBracketed s) : withoutBrackets s = (s.drop 1).dropLast := if_pos h

theorem withoutBrackets_of_not (h : ¬IsBracketed s) : withoutBrackets s = s := if_neg h

/-- Between brackets the text stands as it is. -/
theorem itemsOfText_bracketed (s : List Char) : itemsOfText [','] ('[' :: (s ++ [']'])) = items s := by
  have hbracketed : IsBracketed ('[' :: (s ++ [']'])) := ⟨rfl, by rw [← List.cons_append, List.getLast?_concat]⟩
  have htrimmed : IsTrimmed ('[' :: (s ++ [']'])) := by
    constructor
    · intro c hc
      cases hc
      rfl
    · intro c hc
      rw [Option.mem_def, hbracketed.2] at hc
      cases hc
      rfl
  have hinner : withoutBrackets ('[' :: (s ++ [']'])) = s := by
    rw [withoutBrackets_of_bracketed hbracketed, List.drop_one, List.tail_cons, List.dropLast_concat]
  rw [itemsOfText_eq, trim_of_isTrimmed htrimmed, hinner]

/-- Without brackets, what is around the items makes no difference. -/
theorem itemsOfText_of_not_bracketed (h : ¬IsBracketed (trim s)) : itemsOfText [','] s = items s := by
  rw [itemsOfText_eq, withoutBrackets_of_not h, items_trim]

/-! ## 3. Joined items -/

theorem items_joinWith (hne : parts ≠ []) (hparts : ∀ part ∈ parts, IsItem part) :
    items (joinWith [','] parts) = parts := by
  have hsplit : splitOnChar ',' (joinWith [','] parts) = parts :=
    splitOnChar_eq_iff.mpr ⟨hne, fun part hpart => (hparts part hpart).noComma, rfl⟩
  rw [items, hsplit, List.filterMap_congr fun part hpart => item?_of_isItem (hparts part hpart), List.filterMap_some]

/-- Items are given back by the text in which commas join them, unless that text is one in brackets. -/
theorem itemsOfText_joinWith (hne : parts ≠ []) (hparts : ∀ part ∈ parts, IsItem part)
    (hopen : ¬IsBracketed (joinWith [','] parts)) : itemsOfText [','] (joinWith [','] parts) = parts := by
  have htrimmed : IsTrimmed (joinWith [','] parts) := by
    refine isTrimmed_joinWith (fun part hpart => (hparts part hpart).ne_nil) (fun part hpart => ?_) fun part hpart => ?_
    · exact (trim_eq_self_iff.mp (hparts part (List.mem_of_head? hpart)).trim_eq).head
    · exact (trim_eq_self_iff.mp (hparts part (List.mem_of_getLast? hpart)).trim_eq).last
  rw [itemsOfText_of_not_bracketed (by rwa [trim_of_isTrimmed htrimmed]), items_joinWith hne hparts]

end

/-! ## 4. Reading lists -/

section

variable {text : String} {parts : List String} (room : Room) (field? : Option String)

theorem toList_text (hne : text ≠ "") : toList room "," field? (.text text)
    = .ok (.newList ((itemsOfText [','] text.toList).map fun item => .text (String.ofList item))) := by
  have hnothing : isNothing (.text text) = false := decide_eq_false hne
  simp [toList, hnothing]

theorem toList_intercalate (hparts : ∀ part ∈ parts, IsItem part.toList) (hne : parts ≠ [])
    (hopen : ¬IsBracketed (",".intercalate parts).toList) :
    toList room "," field? (.text (",".intercalate parts)) = .ok (.newList (parts.map .text)) := by
  have hitems : ∀ part ∈ parts.map String.toList, IsItem part := List.forall_mem_map.mpr hparts
  have hnone : parts.map String.toList ≠ [] := mt List.map_eq_nil_iff.mp hne
  have hjoined : (",".intercalate parts).toList = joinWith [','] (parts.map String.toList) := by
    rw [String.toList_intercalate, joinWith_eq_intercalate]
    rfl
  have htext : ",".intercalate parts ≠ "" := by
    intro hempty
    rw [hempty] at hjoined
    have hread := items_joinWith hnone hitems
    rw [← hjoined] at hread
    exact hnone hread.symm
  rw [hjoined] at hopen
  rw [toList_text room field? htext, hjoined, itemsOfText_joinWith hnone hitems hopen, List.map_map]
  simp only [Function.comp_def, String.ofList_toList]

/-- Brackets around a text that has none change nothing. -/
theorem toList_bracketed (hne : text ≠ "") (hopen : ¬IsBracketed (trim text.toList)) :
    toList room "," field? (.text ("[" ++ text ++ "]")) = toList room "," field? (.text text) := by
  have hbracketed : ("[" ++ text ++ "]").toList = '[' :: (text.toList ++ [']']) := by simp
  rw [toList_text room field? (by simp), toList_text room field? hne, hbracketed, itemsOfText_bracketed,
    itemsOfText_of_not_bracketed hopen]

end

/-- Items are given back by their text between commas, unless the first one opens a bracket and the last one closes one.
Every text gives items, and brackets around it change nothing unless it has some already. -/
theorem list_text_round_trip (room : Room) (field? : Option String) :
    (∀ parts : List String, (∀ part ∈ parts, IsItem part.toList) →
      ∀ first ∈ parts.head?, ∀ last ∈ parts.getLast?,
        ¬(first.toList.head? = some '[' ∧ last.toList.getLast? = some ']') →
        toList room "," field? (.text (",".intercalate parts)) = .ok (.newList (parts.map .text))) ∧
      ∀ text : String, text ≠ "" →
        (∃ parts : List String, toList room "," field? (.text text) = .ok (.newList (parts.map .text)) ∧
          ∀ part ∈ parts, IsItem part.toList) ∧
        (¬IsBracketed (trim text.toList) →
          toList room "," field? (.text ("[" ++ text ++ "]")) = toList room "," field? (.text text)) := by
  refine ⟨fun parts hparts first hfirst last hlast hopen => ?_, fun text hne => ⟨?_, toList_bracketed room field? hne⟩⟩
  · have hfilled : ∀ part ∈ parts.map String.toList, part ≠ [] :=
      List.forall_mem_map.mpr fun part hpart => (hparts part hpart).ne_nil
    have hbare : ¬IsBracketed (",".intercalate parts).toList := by
      rw [String.toList_intercalate, ← joinWith_eq_intercalate, IsBracketed, head?_joinWith hfilled,
        getLast?_joinWith hfilled, List.head?_map, List.getLast?_map, hfirst, hlast]
      exact hopen
    exact toList_intercalate room field? hparts (List.ne_nil_of_mem (List.mem_of_head? hfirst)) hbare
  · refine ⟨(itemsOfText [','] text.toList).map String.ofList, ?_, List.forall_mem_map.mpr fun item hitem => ?_⟩
    · rw [toList_text room field? hne, List.map_map]
      rfl
    · rw [itemsOfText_eq] at hitem
      rw [String.toList_ofList]
      exact isItem_of_mem_items hitem

/-- A bracket inside, and one that is never closed. -/
theorem list_text_round_trip_sample :
    ((∀ part ∈ ["[a", "b] c", "d["], IsItem part.toList) ∧
        toList (.ofPlaces 0) "," none (.text "[a,b] c,d[") = .ok (.newList [.text "[a", .text "b] c", .text "d["])) ∧
      ¬IsBracketed (trim " [x , ,y] z ".toList) ∧
        toList (.ofPlaces 0) "," none (.text "[ [x , ,y] z ]")
          = toList (.ofPlaces 0) "," none (.text " [x , ,y] z ") := by
  have hitems : ∀ part ∈ ["[a", "b] c", "d["], IsItem part.toList := by decide
  have hbare : ¬IsBracketed (trim " [x , ,y] z ".toList) := by decide
  exact ⟨⟨hitems, (list_text_round_trip _ none).1 _ hitems "[a" rfl "d[" rfl (by decide)⟩, hbare,
    ((list_text_round_trip _ none).2 " [x , ,y] z " (by decide)).2 hbare⟩

end CallContract.Conversion
