import Mathlib.Data.List.Basic
import VariantStore.Text.Blank

/-!
# What the items of a list are

A text is read as a list by cutting it at its commas, taking the blanks off the ends of each part
and leaving out what is empty then. Here the items are described by where they stand in the text. A
part stands between commas and ends of the text and has no comma in it (`IsPart`); its trimmed form
has blanks around it in the part and none at its own ends (`Trims`). An item is the trimmed form of
a part, unless it is empty (`IsItem`), and these are the ones that are read (`mem_listItems_iff`).
-/

namespace VariantStore.Text

/-! ## Parts -/

/-- The part has no comma in it and stands between commas and ends of the characters. -/
def IsPart (part cs : List Char) : Prop :=
  ',' ∉ part ∧ ∃ front back, cs = front ++ part ++ back ∧
    (∀ c ∈ front.getLast?, c = ',') ∧ (∀ c ∈ back.head?, c = ',')

theorem comma_notMem_of_mem_splitOn {part cs : List Char} (h : part ∈ cs.splitOn ',') :
    ',' ∉ part := by
  rw [List.splitOn_eq_splitOnP] at h
  induction cs generalizing part with
  | nil =>
    rw [List.splitOnP_nil, List.mem_singleton] at h
    subst h
    exact List.not_mem_nil
  | cons c cs ih =>
    rw [List.splitOnP_cons_eq_if_modifyHead] at h
    split at h
    case isTrue hcomma =>
      rcases List.mem_cons.mp h with rfl | h
      · exact List.not_mem_nil
      · exact ih h
    case isFalse hother =>
      -- the character goes to the front of the first part
      cases hparts : cs.splitOnP (· == ',') with
      | nil => exact absurd hparts (List.splitOnP_ne_nil _ _)
      | cons first rest =>
        rw [hparts] at h ih
        rcases List.mem_cons.mp h with rfl | h
        · have hc : ',' ≠ c := fun heq => hother (beq_iff_eq.mpr heq.symm)
          exact List.not_mem_cons_of_ne_of_not_mem hc (ih List.mem_cons_self)
        · exact ih (List.mem_cons_of_mem first h)

/-- Each of the texts that are joined stands between separators and ends. -/
theorem exists_intercalate_comma (before : List (List Char)) (part : List Char)
    (after : List (List Char)) :
    ∃ front back, [','].intercalate (before ++ part :: after) = front ++ part ++ back ∧
      (∀ c ∈ front.getLast?, c = ',') ∧ (∀ c ∈ back.head?, c = ',') := by
  induction before with
  | nil =>
    cases after with
    | nil => exact ⟨[], [], by simp, by simp, by simp⟩
    | cons next after =>
      exact ⟨[], ',' :: [','].intercalate (next :: after), by simp, by simp, by simp⟩
  | cons first before ih =>
    obtain ⟨front, back, heq, hfront, hback⟩ := ih
    refine ⟨first ++ ',' :: front, back, ?_, ?_, hback⟩
    · rw [List.cons_append, List.intercalate_cons_of_ne_nil (by simp), heq]
      simp
    · intro c hc
      rw [List.getLast?_append, List.getLast?_cons] at hc
      cases hlast : front.getLast? with
      | none => simpa [hlast, eq_comm] using hc
      | some d =>
        rw [hlast] at hc
        cases hc
        exact hfront _ hlast

/-- What is cut out at the commas are the parts. -/
theorem mem_splitOn_comma_iff {part cs : List Char} :
    part ∈ cs.splitOn ',' ↔ IsPart part cs := by
  constructor
  · intro h
    refine ⟨comma_notMem_of_mem_splitOn h, ?_⟩
    obtain ⟨before, after, hparts⟩ := List.append_of_mem h
    have hcs : [','].intercalate (cs.splitOn ',') = cs := List.intercalate_splitOn ','
    rw [← hcs, hparts]
    exact exists_intercalate_comma before part after
  · rintro ⟨hpart, front, back, rfl, hfront, hback⟩
    rw [List.splitOn_eq_splitOnP]
    have halone : part.splitOnP (· == ',') = [part] :=
      List.splitOnP_eq_singleton fun c hc => beq_false_of_ne fun heq => hpart (heq ▸ hc)
    -- what follows begins with a comma, so the part is cut off from it
    have hcut : part ∈ (part ++ back).splitOnP (· == ',') := by
      cases back with
      | nil => simp [halone]
      | cons c back =>
        obtain rfl := hback c rfl
        rw [List.splitOnP_append_cons part back (by simp), halone]
        exact List.mem_cons_self
    rcases List.eq_nil_or_concat front with rfl | ⟨front, c, rfl⟩
    · exact hcut
    · obtain rfl := hfront c (by simp)
      rw [List.concat_eq_append, List.append_assoc, List.append_assoc, List.singleton_append,
        List.splitOnP_append_cons front _ (by simp)]
      exact List.mem_append_right _ hcut

/-! ## Trimming -/

/-- The second text has blanks around it in the first one, and none at its own ends. -/
structure Trims (cs trimmed : List Char) : Prop where
  around : ∃ before after, cs = before ++ trimmed ++ after ∧
    (∀ c ∈ before, isBlank c = true) ∧ (∀ c ∈ after, isBlank c = true)
  first : ∀ c ∈ trimmed.head?, isBlank c = false
  last : ∀ c ∈ trimmed.getLast?, isBlank c = false

/-- All of the front is dropped, and nothing else if the rest begins with another character. -/
theorem dropWhile_append {p : Char → Bool} {front rest : List Char}
    (hfront : ∀ c ∈ front, p c = true) (hrest : ∀ c ∈ rest.head?, p c = false) :
    (front ++ rest).dropWhile p = rest := by
  rw [List.dropWhile_append_of_pos hfront]
  cases rest with
  | nil => rfl
  | cons c rest => exact List.dropWhile_cons_of_neg (by simp [hrest c rfl])

theorem head?_dropWhile {p : Char → Bool} (cs : List Char) :
    ∀ c ∈ (cs.dropWhile p).head?, p c = false := by
  intro c hc
  have h := List.head?_dropWhile_not p cs
  rw [Option.mem_def.mp hc] at h
  exact h

theorem trims_trimChars (cs : List Char) : Trims cs (trimChars cs) := by
  -- first the blanks in front go, then those behind
  let rest := cs.dropWhile isBlank
  have hcs : cs = cs.takeWhile isBlank ++ rest := List.takeWhile_append_dropWhile.symm
  have hrest : rest = trimChars cs ++ (rest.reverse.takeWhile isBlank).reverse := by
    rw [trimChars, ← List.reverse_append, List.takeWhile_append_dropWhile, List.reverse_reverse]
  refine ⟨⟨cs.takeWhile isBlank, (rest.reverse.takeWhile isBlank).reverse, ?_, ?_, ?_⟩, ?_, ?_⟩
  · rw [List.append_assoc, ← hrest]
    exact hcs
  · exact List.all_eq_true.mp List.all_takeWhile
  · intro c hc
    exact List.all_eq_true.mp List.all_takeWhile c (List.mem_reverse.mp hc)
  · intro c hc
    refine head?_dropWhile cs c ?_
    show c ∈ rest.head?
    rw [hrest, List.head?_append, Option.mem_def.mp hc]
    rfl
  · intro c hc
    rw [trimChars, List.getLast?_reverse] at hc
    exact head?_dropWhile _ c hc

/-- The trimmed text is determined. -/
theorem trimChars_eq_of_trims {cs trimmed : List Char} (h : Trims cs trimmed) :
    trimChars cs = trimmed := by
  obtain ⟨⟨before, after, rfl, hbefore, hafter⟩, hfirst, hlast⟩ := h
  rw [trimChars]
  cases trimmed with
  | nil =>
    -- nothing but blanks
    have hblank : ∀ c ∈ before ++ after, isBlank c = true := by
      intro c hc
      rcases List.mem_append.mp hc with hc | hc
      · exact hbefore c hc
      · exact hafter c hc
    have hnone : (before ++ after ++ []).dropWhile isBlank = [] := dropWhile_append hblank (by simp)
    rw [List.append_nil] at hnone ⊢
    rw [hnone]
    rfl
  | cons c cs =>
    have hbegins : ∀ d ∈ (c :: cs ++ after).head?, isBlank d = false := hfirst
    have hends : ∀ d ∈ (c :: cs).reverse.head?, isBlank d = false := by
      rwa [List.head?_reverse]
    have hbehind : ∀ d ∈ after.reverse, isBlank d = true := fun d hd =>
      hafter d (List.mem_reverse.mp hd)
    rw [List.append_assoc, dropWhile_append hbefore hbegins, List.reverse_append,
      dropWhile_append hbehind hends, List.reverse_reverse]

/-! ## Items -/

/-- The item is the trimmed form of a part of the text, and not empty. -/
def IsItem (item s : String) : Prop :=
  item ≠ "" ∧ ∃ part, IsPart part s.toList ∧ Trims part item.toList

theorem mem_listItems_iff {item s : String} : item ∈ listItems s ↔ IsItem item s := by
  unfold listItems IsItem
  simp only [List.mem_filterMap, List.mem_map, mem_splitOn_comma_iff]
  constructor
  · rintro ⟨trimmed, ⟨part, hpart, rfl⟩, hitem⟩
    split at hitem
    case isTrue => cases hitem
    case isFalse hne =>
      cases hitem
      refine ⟨?_, part, hpart, ?_⟩
      · simpa using hne
      · rw [String.toList_ofList]
        exact trims_trimChars part
  · rintro ⟨hne, part, hpart, htrims⟩
    refine ⟨item.toList, ⟨part, hpart, trimChars_eq_of_trims htrims⟩, ?_⟩
    have hsome : ¬item.toList.isEmpty = true := by simpa using hne
    rw [if_neg hsome, String.ofList_toList]

end VariantStore.Text
