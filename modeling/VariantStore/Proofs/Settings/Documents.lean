import VariantStore.Proofs.Json.Reading
import VariantStore.Settings.Document

/-!
# Documents that give settings

An object that gives settings has members in any order, each bound at most once; a name may be
spelled in any way, and blanks may stand around every part. Members are read one after the other,
and each is read off with the rest left behind (`readMembers_body`), so the whole object is read up
to its end with what its members give (`readMembers_membersText`). It comes to the bounds that are
given and the defaults for the others (`readDocument_text`). What is written is such an object
(`exists_text_eq_render`).
-/

namespace VariantStore.Settings

open Json

/-! ## Written documents -/

/-- A member of an object: a bound and the digits of a number of 64 bits, with the name spelled in
some way and blanks around each part. -/
structure Member where
  bound : Bound
  value : Nat
  spelling : List Char
  beforeName : Blanks
  behindName : Blanks
  beforeValue : Blanks
  behindValue : Blanks
  fits : value < UInt64.size
  spells : Spells spelling bound.name.toList

namespace Member

/-- What follows the opening quote of the name, up to the blanks behind the value. -/
def body (m : Member) (rest : List Char) : List Char :=
  m.spelling ++ '"' :: (m.behindName.val
    ++ ':' :: (m.beforeValue.val ++ ((toString m.value).toList ++ rest)))

def text (m : Member) : List Char := m.beforeName.val ++ '"' :: m.body m.behindValue.val

theorem text_append (m : Member) (rest : List Char) :
    m.text ++ rest = m.beforeName.val ++ '"' :: m.body (m.behindValue.val ++ rest) := by
  simp [text, body]

end Member

/-- Members with commas between them. -/
def membersText : List Member → List Char
  | [] => []
  | m :: rest => m.text ++ rest.flatMap fun m => ',' :: m.text

/-- The number that members give for a bound. -/
def value? (members : List Member) (bound : Bound) : Option Nat :=
  (members.find? fun m => m.bound = bound).map Member.value

theorem value?_cons (m : Member) (members : List Member) (bound : Bound) :
    value? (m :: members) bound
      = if m.bound = bound then some m.value else value? members bound := by
  unfold value?
  split
  case isTrue heq => rw [List.find?_cons_of_pos (by simpa using heq), Option.map_some]
  case isFalse hne => rw [List.find?_cons_of_neg (by simpa using hne)]

theorem value?_eq_none {members : List Member} {bound : Bound}
    (h : bound ∉ members.map Member.bound) : value? members bound = none := by
  rw [value?, Option.map_eq_none_iff, List.find?_eq_none]
  intro m hm heq
  exact h (of_decide_eq_true heq ▸ List.mem_map_of_mem hm)

/-- An object that holds each bound at most once. -/
structure Document where
  members : List Member
  before : Blanks
  inside : Blanks
  behind : Blanks
  distinct : (members.map Member.bound).Nodup

namespace Document

def text (d : Document) : String :=
  String.ofList <| d.before.val
    ++ '{' :: (d.inside.val ++ (membersText d.members ++ '}' :: d.behind.val))

/-- The bounds that are given, and the defaults for the others. -/
def settings (d : Document) : Settings :=
  let standard : Settings := {}
  ⟨(value? d.members .capacity).getD standard.capacity,
    (value? d.members .variantCapacity).getD standard.variantCapacity⟩

end Document

/-! ## Reading members -/

theorem boundOfName?_name (bound : Bound) : boundOfName? bound.name = some bound := by
  cases bound <;> simp [boundOfName?, Bound.name]

theorem readKeyStart_append (first : Bool) (blanks : Blanks) (rest : List Char) :
    readKeyStart first (blanks.val ++ rest) = readKeyStart first rest := by
  unfold readKeyStart
  rw [skipBlanks_append]

theorem readKeyStart_first (rest : List Char) :
    readKeyStart true ('"' :: rest) = .ok (true, rest) :=
  rfl

theorem readKeyStart_end (first : Bool) (rest : List Char) :
    readKeyStart first ('}' :: rest) = .ok (false, rest) :=
  rfl

theorem readKeyStart_next (blanks : Blanks) (rest : List Char) :
    readKeyStart false (',' :: (blanks.val ++ '"' :: rest)) = .ok (true, rest) := by
  have hquote : skipBlanks (blanks.val ++ '"' :: rest) = '"' :: rest :=
    skipBlanks_append_cons blanks rfl rest
  unfold readKeyStart
  rw [skipBlanks_cons rfl]
  simp only [Bool.false_eq_true, if_false, hquote]

/-- A number that fits is a bound. -/
theorem readBound_toString (blanks : Blanks) {n : Nat} (hfits : n < UInt64.size) {rest : List Char}
    (h : Stops rest) :
    readBound (blanks.val ++ ((toString n).toList ++ rest)) = .ok (n, rest) := by
  have hnumber : readNumber false ((toString n).toList ++ rest) = .ok (.natural n, rest) :=
    readNumber_toString (Nat.le_pred_of_lt hfits) h
  obtain ⟨c, cs, hcs, hdigit⟩ := exists_toString_eq_cons n
  have hblank : isBlank c = false := isBlank_of_isDigit hdigit
  have hsign : c ≠ '-' := by
    rintro rfl
    exact absurd hdigit (by decide)
  rw [hcs, List.cons_append] at hnumber ⊢
  unfold readBound
  rw [skipBlanks_append_cons _ hblank]
  simp only [hdigit, hsign, or_true, if_true, if_false, hnumber]

theorem readColonBound_body (m : Member) {rest : List Char} (h : Stops rest) :
    readColonBound (m.behindName.val
        ++ ':' :: (m.beforeValue.val ++ ((toString m.value).toList ++ rest)))
      = .ok (m.value, rest) := by
  unfold readColonBound
  rw [skipBlanks_append_cons _ rfl]
  exact readBound_toString m.beforeValue m.fits h

theorem readMembers_end {given : Given} {first : Bool} {cs rest : List Char}
    (h : readKeyStart first cs = .ok (false, rest)) :
    readMembers given first cs = .ok (given, rest) := by
  rw [readMembers, h]

/-- What follows a member: more of them, and the end of the object. -/
def behindMember (members : List Member) (rest : List Char) : List Char :=
  (members.flatMap fun m => ',' :: m.text) ++ '}' :: rest

theorem behindMember_cons (m : Member) (members : List Member) (rest : List Char) :
    behindMember (m :: members) rest
      = ',' :: (m.beforeName.val
          ++ '"' :: m.body (m.behindValue.val ++ behindMember members rest)) := by
  rw [behindMember, List.flatMap_cons, List.append_assoc, List.cons_append, Member.text_append]
  rfl

theorem stops_behindMember (members : List Member) (rest : List Char) :
    Stops (behindMember members rest) := by
  cases members with
  | nil => exact stops_cons (by decide) rest
  | cons m members =>
    rw [behindMember_cons]
    exact stops_cons (by decide) _

/-- A member of a bound that was not given yet gives it, and what follows it is read next. -/
theorem readMembers_body {given : Given} {first : Bool} {cs rest : List Char} {m : Member}
    {members : List Member}
    (h : readKeyStart first cs
      = .ok (true, m.body (m.behindValue.val ++ behindMember members rest)))
    (hnew : given.get? m.bound = none) :
    readMembers given first cs
      = readMembers (given.set m.bound m.value) false
          (m.behindValue.val ++ behindMember members rest) := by
  have hstops : Stops (m.behindValue.val ++ behindMember members rest) :=
    (stops_behindMember members rest).append m.behindValue
  rw [readMembers, h]
  simp only [Member.body, readString_of_spells m.spells, boundOfName?_name]
  split
  case h_1 hgiven =>
    rw [hnew] at hgiven
    cases hgiven
  case h_2 =>
    rw [readColonBound_body m hstops]

/-- Members give their bounds, one after the other. -/
def Given.fill (given : Given) (members : List Member) : Given :=
  members.foldl (fun g m => g.set m.bound m.value) given

theorem Given.get?_set (given : Given) (bound other : Bound) (n : Nat) :
    (given.set bound n).get? other = if bound = other then some n else given.get? other := by
  cases bound <;> cases other <;> rfl

/-- Members are read one after the other, up to the end of the object. -/
theorem readMembers_members {given : Given} {first : Bool} {cs rest : List Char} {m : Member}
    {members : List Member} (hdistinct : ((m :: members).map Member.bound).Nodup)
    (hnew : ∀ m' ∈ m :: members, given.get? m'.bound = none)
    (h : readKeyStart first cs
      = .ok (true, m.body (m.behindValue.val ++ behindMember members rest))) :
    readMembers given first cs = .ok (given.fill (m :: members), rest) := by
  induction members generalizing given first cs m with
  | nil =>
    rw [readMembers_body h (hnew m List.mem_cons_self)]
    refine readMembers_end ?_
    rw [readKeyStart_append]
    exact readKeyStart_end false rest
  | cons m' members ih =>
    obtain ⟨hnotMem, hdistinct⟩ := List.nodup_cons.mp hdistinct
    rw [readMembers_body h (hnew m List.mem_cons_self)]
    refine ih hdistinct (fun m'' hm'' => ?_) ?_
    · have hne : m.bound ≠ m''.bound := fun heq => hnotMem (heq ▸ List.mem_map_of_mem hm'')
      rw [Given.get?_set, if_neg hne]
      exact hnew m'' (List.mem_cons_of_mem m hm'')
    · rw [readKeyStart_append, behindMember_cons, readKeyStart_next]

/-- An object is read up to its end, with what its members give. -/
theorem readMembers_membersText {members : List Member}
    (hdistinct : (members.map Member.bound).Nodup) (blanks : Blanks) (rest : List Char) :
    readMembers {} true (blanks.val ++ (membersText members ++ '}' :: rest))
      = .ok (Given.fill {} members, rest) := by
  cases members with
  | nil =>
    refine readMembers_end ?_
    rw [readKeyStart_append]
    exact readKeyStart_end true rest
  | cons m members =>
    have hnew : ∀ bound, ({} : Given).get? bound = none := by
      intro bound
      cases bound <;> rfl
    have htext : membersText (m :: members) ++ '}' :: rest
        = m.beforeName.val ++ '"' :: m.body (m.behindValue.val ++ behindMember members rest) := by
      rw [membersText, List.append_assoc, Member.text_append]
      rfl
    refine readMembers_members hdistinct (fun m' _ => hnew m'.bound) ?_
    rw [readKeyStart_append, htext, readKeyStart_append, readKeyStart_first]

/-- What is given for a bound is what the member of the bound says. -/
theorem Given.get?_fill {members : List Member} (hdistinct : (members.map Member.bound).Nodup)
    (given : Given) (bound : Bound) :
    (given.fill members).get? bound = (value? members bound).or (given.get? bound) := by
  induction members generalizing given with
  | nil => rfl
  | cons m members ih =>
    obtain ⟨hm, hdistinct⟩ := List.nodup_cons.mp hdistinct
    have hfill : given.fill (m :: members) = (given.set m.bound m.value).fill members := rfl
    rw [hfill, ih hdistinct, Given.get?_set]
    rw [value?_cons]
    by_cases heq : m.bound = bound
    · have hnone : value? members bound = none := value?_eq_none (heq ▸ hm)
      rw [hnone, if_pos heq, if_pos heq, Option.none_or, Option.some_or]
    · rw [if_neg heq, if_neg heq]

/-! ## Reading documents -/

/-- A document is what is given, with nothing but blanks behind it. -/
theorem readDocument_of_readGiven {document : String} {given : Given} {rest : List Char}
    (h : readGiven document.toList = .ok (given, rest)) :
    readDocument document =
      if skipBlanks rest = [] then .ok given.settings
      else .error (faultAtNext .trailingText (skipBlanks rest)) := by
  unfold readDocument
  rw [h]
  dsimp only [bind, Except.bind]
  cases skipBlanks rest <;> rfl

theorem readDocument_text (d : Document) : readDocument d.text = .ok d.settings := by
  have hgiven : readGiven d.text.toList = .ok (Given.fill {} d.members, d.behind.val) := by
    rw [Document.text, String.toList_ofList, readGiven, skipBlanks_append_cons _ rfl]
    exact readMembers_membersText d.distinct d.inside d.behind.val
  have hsettings : (Given.fill {} d.members).settings = d.settings := by
    have hget : ∀ bound, (Given.fill {} d.members).get? bound = value? d.members bound := by
      intro bound
      rw [Given.get?_fill d.distinct]
      cases bound <;> exact Option.or_none
    have hcapacity := hget .capacity
    have hvariants := hget .variantCapacity
    unfold Given.settings Document.settings
    rw [← hcapacity, ← hvariants]
    rfl
  have hend : skipBlanks d.behind.val = [] := by
    have happend := skipBlanks_append d.behind []
    rwa [List.append_nil] at happend
  rw [readDocument_of_readGiven hgiven, if_pos hend, hsettings]

/-! ## Writing -/

def noBlanks : Blanks := ⟨[], rfl⟩

/-- A member as it is written. -/
def Member.plain (bound : Bound) {n : Nat} (hfits : n < UInt64.size) : Member where
  bound := bound
  value := n
  spelling := bound.name.toList
  beforeName := noBlanks
  behindName := noBlanks
  beforeValue := noBlanks
  behindValue := noBlanks
  fits := hfits
  spells := by cases bound <;> exact spells_self (by decide)

/-- What is written is a document with both bounds. -/
theorem exists_text_eq_render {s : Settings} (hcapacity : s.capacity < UInt64.size)
    (hvariants : s.variantCapacity < UInt64.size) :
    ∃ d : Document, d.text = s.render ∧ d.settings = s := by
  let d : Document :=
    { members := [.plain .capacity hcapacity, .plain .variantCapacity hvariants]
      before := noBlanks
      inside := noBlanks
      behind := noBlanks
      distinct := (by decide : [Bound.capacity, .variantCapacity].Nodup) }
  refine ⟨d, ?_, rfl⟩
  rw [← String.toList_inj, Document.text, String.toList_ofList]
  simp [d, render, renderBound, membersText, Member.text, Member.body, Member.plain, noBlanks]

end VariantStore.Settings
