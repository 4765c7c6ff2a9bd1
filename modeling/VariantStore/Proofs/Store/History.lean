import VariantStore.Proofs.Store.Run

/-!
# What is stored, by the history of writes

Whatever a store forgets, what it still holds tells of the writes alone: every item is that of the
last write under its key, resources stand in the order of their last writes, and so do the variants
of each resource (`Recorded`, `recorded_after`). The age of an entry is the number of writes since
its last one; a write makes its own entry the youngest and all others older by one.
-/

namespace VariantStore

open Recency

/-! ## Last writes -/

/-- A write of the history, and the ones that came after it, none of them under its key. -/
structure LastWrite (history : List Write) (w : Write) (after : List Write) : Prop where
  placed : ∃ before, history = before ++ w :: after
  final : ∀ later ∈ after, later.key ≠ w.key

/-- The number of writes since the last one that passes a test. -/
def sinceLast (test : Write → Bool) (history : List Write) : Nat := history.reverse.findIdx test

theorem sinceLast_concat_of_pos {test : Write → Bool} {w : Write} (h : test w = true)
    (history : List Write) : sinceLast test (history ++ [w]) = 0 := by
  simp [sinceLast, List.findIdx_cons, h]

theorem sinceLast_concat_of_neg {test : Write → Bool} {w : Write} (h : test w = false)
    (history : List Write) : sinceLast test (history ++ [w]) = sinceLast test history + 1 := by
  simp [sinceLast, List.findIdx_cons, h]

/-- The number of writes since the last one to the resource. -/
def resourceAge (history : List Write) (resource : ResourceId) : Nat :=
  sinceLast (fun w => w.key.resource == resource) history

/-- The number of writes since the last one under the key. -/
def keyAge (history : List Write) (key : Key) : Nat := sinceLast (fun w => w.key == key) history

section Age

variable {history : List Write} {w : Write}

theorem resourceAge_concat_self (history : List Write) (w : Write) :
    resourceAge (history ++ [w]) w.key.resource = 0 :=
  sinceLast_concat_of_pos (by simp) history

theorem resourceAge_concat_of_ne {resource : ResourceId} (hne : resource ≠ w.key.resource) :
    resourceAge (history ++ [w]) resource = resourceAge history resource + 1 :=
  sinceLast_concat_of_neg (by simpa using hne.symm) history

theorem keyAge_concat_self (history : List Write) (w : Write) :
    keyAge (history ++ [w]) w.key = 0 :=
  sinceLast_concat_of_pos (by simp) history

theorem keyAge_concat_of_ne {key : Key} (hne : key ≠ w.key) :
    keyAge (history ++ [w]) key = keyAge history key + 1 :=
  sinceLast_concat_of_neg (by simpa using hne.symm) history

end Age

namespace LastWrite

variable {history after : List Write} {w : Write}

theorem self (history : List Write) (w : Write) : LastWrite (history ++ [w]) w [] where
  placed := ⟨history, rfl⟩
  final := by
    intro later hlater
    cases hlater

/-- A write under another key leaves it the last one. -/
theorem concat (h : LastWrite history w after) {other : Write} (hne : other.key ≠ w.key) :
    LastWrite (history ++ [other]) w (after ++ [other]) where
  placed := by
    obtain ⟨before, rfl⟩ := h.placed
    exact ⟨before, by rw [List.append_assoc, List.cons_append]⟩
  final := by
    intro later hlater
    rcases List.mem_append.mp hlater with hlater | hlater
    · exact h.final later hlater
    · rw [List.mem_singleton.mp hlater]
      exact hne

/-- The age of a key is the number of writes after its last one. -/
theorem keyAge_eq (h : LastWrite history w after) : keyAge history w.key = after.length := by
  obtain ⟨before, rfl⟩ := h.placed
  have hfinal := h.final
  clear h
  -- each later write adds one to the age, since none is under the key
  induction after using List.reverseRecOn with
  | nil => exact keyAge_concat_self before w
  | append_singleton after later ih =>
    have hne : w.key ≠ later.key := (hfinal later (by simp)).symm
    have hassoc : before ++ w :: (after ++ [later]) = (before ++ w :: after) ++ [later] := by simp
    rw [hassoc, keyAge_concat_of_ne hne, List.length_append, List.length_singleton]
    rw [ih fun l hl => hfinal l (List.mem_append_left _ hl)]

/-- There is one last write under a key. -/
theorem unique (h : LastWrite history w after) {w' : Write} {after' : List Write}
    (h' : LastWrite history w' after') (hkey : w.key = w'.key) : w = w' ∧ after = after' := by
  have hlen : after.length = after'.length := by
    rw [← h.keyAge_eq, ← h'.keyAge_eq, hkey]
  obtain ⟨before, hplaced⟩ := h.placed
  obtain ⟨before', hplaced'⟩ := h'.placed
  -- the same number of writes follow both, so they stand in the same place
  obtain ⟨-, heq⟩ := List.append_inj' (hplaced.symm.trans hplaced') (by simp [hlen])
  cases heq
  exact ⟨rfl, rfl⟩

end LastWrite

/-! ## Layouts that tell of the history -/

/-- Both levels are in the order of the last writes, and items are those of the last writes. -/
structure Recorded (history : List Write) (l : Layout) : Prop where
  resources : (l.map Prod.fst).Pairwise fun a b => resourceAge history a < resourceAge history b
  variants : ∀ e ∈ l, (e.2.map Prod.fst).Pairwise fun a b =>
    keyAge history ⟨e.1, a⟩ < keyAge history ⟨e.1, b⟩
  items : ∀ e ∈ l, ∀ f ∈ e.2, ∃ w after, LastWrite history w after ∧ w.key = ⟨e.1, f.1⟩ ∧
    w.item = f.2

namespace Recorded

variable {history : List Write} {l : Layout}

theorem empty (history : List Write) : Recorded history [] where
  resources := .nil
  variants := by
    intro e he
    cases he
  items := by
    intro e he
    cases he

theorem sublist (h : Recorded history l) {part : Layout} (hsub : part.Sublist l) :
    Recorded history part where
  resources := h.resources.sublist (hsub.map Prod.fst)
  variants := fun e he => h.variants e (hsub.subset he)
  items := fun e he => h.items e (hsub.subset he)

theorem distinct (h : Recorded history l) : Distinct l :=
  h.resources.imp fun hlt heq => by
    rw [heq] at hlt
    exact Nat.lt_irrefl _ hlt

theorem distinct_of_mem (h : Recorded history l) {e : ResourceId × List (Selector × Item)}
    (he : e ∈ l) : Distinct e.2 :=
  (h.variants e he).imp fun hlt heq => by
    rw [heq] at hlt
    exact Nat.lt_irrefl _ hlt

/-- The variants that a write finds are in order too. -/
theorem variants_of (h : Recorded history l) (resource : ResourceId) :
    ((Layout.variants l resource).map Prod.fst).Pairwise fun a b =>
      keyAge history ⟨resource, a⟩ < keyAge history ⟨resource, b⟩ := by
  rcases Layout.variants_eq_nil_or_mem l resource with hnil | hmem
  · rw [hnil]
    exact .nil
  · exact h.variants _ hmem

theorem items_of (h : Recorded history l) {resource : ResourceId} {f : Selector × Item}
    (hf : f ∈ Layout.variants l resource) :
    ∃ w after, LastWrite history w after ∧ w.key = ⟨resource, f.1⟩ ∧ w.item = f.2 := by
  rcases Layout.variants_eq_nil_or_mem l resource with hnil | hmem
  · rw [hnil] at hf
    cases hf
  · exact h.items _ hmem f hf

/-- An item under another key than the written one still is that of its last write. -/
theorem items_concat {w : Write} {key : Key} {item : Item} (hne : w.key ≠ key)
    (h : ∃ w' after, LastWrite history w' after ∧ w'.key = key ∧ w'.item = item) :
    ∃ w' after, LastWrite (history ++ [w]) w' after ∧ w'.key = key ∧ w'.item = item := by
  obtain ⟨w', after, hlast, hkey, hitem⟩ := h
  exact ⟨w', after ++ [w], hlast.concat (by rw [hkey]; exact hne), hkey, hitem⟩

theorem write (h : Recorded history l) (capacity variantCapacity : Nat) (w : Write) :
    Recorded (history ++ [w]) (Layout.write capacity variantCapacity l w.key w.item) := by
  refine sublist ?_ (List.take_sublist _ _)
  refine ⟨?_, ?_, ?_⟩
  · exact pairwise_renew (resourceAge_concat_self history w)
      (fun other hne => resourceAge_concat_of_ne hne) h.resources
  · intro e he
    rcases mem_of_mem_renew he with rfl | ⟨he, hne⟩
    · refine List.Pairwise.sublist ((List.take_sublist _ _).map _) ?_
      refine pairwise_renew (keyAge_concat_self history w) (fun other hne => ?_)
        (h.variants_of w.key.resource)
      exact keyAge_concat_of_ne fun heq => hne (congrArg Key.selector heq)
    · -- the variants of another resource age alike
      refine (h.variants e he).imp fun {a b} hab => ?_
      have hkey : ∀ v, (⟨e.1, v⟩ : Key) ≠ w.key := fun v heq => hne (congrArg Key.resource heq)
      rw [keyAge_concat_of_ne (hkey a), keyAge_concat_of_ne (hkey b)]
      omega
  · intro e he f hf
    rcases mem_of_mem_renew he with rfl | ⟨he, hne⟩
    · rcases mem_of_mem_renew (List.mem_of_mem_take hf) with rfl | ⟨hf, hsel⟩
      · exact ⟨w, [], LastWrite.self history w, rfl, rfl⟩
      · exact items_concat (fun heq => hsel (congrArg Key.selector heq).symm) (h.items_of hf)
    · exact items_concat (fun heq => hne (congrArg Key.resource heq).symm) (h.items e he f hf)

end Recorded

/-- Whatever was done, what is stored tells of the history of writes. -/
theorem recorded_after (capacity variantCapacity : Nat) (es : List Effect) :
    Recorded (writes es) (Layout.after capacity variantCapacity es) := by
  induction es using List.reverseRecOn with
  | nil => exact Recorded.empty []
  | append_singleton es e ih =>
    rw [Layout.after_concat]
    cases e with
    | write w =>
      rw [writes_concat_write]
      exact ih.write capacity variantCapacity w
    | invalidate resource =>
      rw [writes_concat_of_none rfl]
      exact ih.sublist (others_sublist resource _)
    | clear =>
      rw [writes_concat_of_none rfl]
      exact Recorded.empty _
    | nothing =>
      rw [writes_concat_of_none rfl]
      exact ih

theorem Store.recorded_run {capacity variantCapacity : Nat} (hc : 0 < capacity)
    (hv : 0 < variantCapacity) (ops : List Operation) :
    Recorded (writes (effects ops)) ((empty capacity variantCapacity).run ops).layout := by
  rw [layout_run hc hv]
  exact recorded_after capacity variantCapacity (effects ops)

end VariantStore
