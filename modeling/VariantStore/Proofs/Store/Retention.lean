import VariantStore.Proofs.Store.Distance
import VariantStore.Proofs.Store.History

/-!
# What a store forgets, and what it keeps

A key stays as long as there is room on both levels: its resource is dropped once `capacity` others
stand in front of it, and the variant once `variantCapacity` others of its resource do. A write to
the resource brings the resource back to the front, but not the variant.

So the fate of a key after its last write depends on the effects that follow, and not on what the
store held before (`fate`). In terms of the writes, a key is stored if and only if fewer than
`capacity` resources were written in each gap between the later writes to its resource, and fewer
than `variantCapacity` selectors were written there (`retention_of_run`). Removals in between can
only make room.
-/

namespace VariantStore

open Recency

/-! ## One key in a layout -/

namespace Layout

/-- The key is stored with the item. In front of its resource are exactly the given resources, and
in front of its selector exactly the given selectors. -/
def Stands (ahead : Finset ResourceId) (among : Finset Selector) (key : Key) (item : Item)
    (l : Layout) : Prop :=
  ∃ vs, Behind ahead key.resource vs l ∧ Behind among key.selector item vs

/-- The key is not stored. -/
def Lacks (l : Layout) (key : Key) : Prop :=
  ∀ vs, (key.resource, vs) ∈ l → key.selector ∉ vs.map Prod.fst

variable {l : Layout} {c v : Nat} {ahead : Finset ResourceId} {among : Finset Selector}
  {key other : Key} {item : Item}

theorem stands_write_self (hc : 0 < c) (hv : 0 < v) (l : Layout) (key : Key) (item : Item) :
    Stands ∅ ∅ key item (write c v l key item) :=
  ⟨_, behind_take_renew_self hc _ _ l, behind_take_renew_self hv _ _ _⟩

theorem variants_of_behind {vs : List (Selector × Item)} (hd : Distinct l)
    (h : Behind ahead key.resource vs l) (heq : key.resource = other.resource) :
    variants l other.resource = vs := by
  rw [← heq]
  exact variants_of_mem hd h.mem

/-- A write to another resource puts that one in front. -/
theorem Stands.write_elsewhere (h : Stands ahead among key item l) (hd : Distinct l)
    (hne : key.resource ≠ other.resource) (new : Item)
    (hn : (insert other.resource ahead).card < c) :
    Stands (insert other.resource ahead) among key item (write c v l other new) := by
  obtain ⟨vs, hres, hsel⟩ := h
  exact ⟨vs, behind_take_renew hd hres hne _ hn, hsel⟩

theorem Stands.lacks_write_elsewhere (h : Stands ahead among key item l) (hd : Distinct l)
    (hne : key.resource ≠ other.resource) (new : Item)
    (hn : c ≤ (insert other.resource ahead).card) : Lacks (write c v l other new) key := by
  obtain ⟨vs, hres, -⟩ := h
  intro vs' hvs'
  exact absurd (List.mem_map_of_mem hvs') (not_mem_take_renew hd hres hne _ hn)

/-- A write beside the variant brings the resource to the front and puts the other variant in front
of this one. -/
theorem Stands.write_beside (h : Stands ahead among key item l) (hd : Distinct l)
    (hvd : ∀ e ∈ l, Distinct e.2) (hc : 0 < c) (heq : key.resource = other.resource)
    (hne : key.selector ≠ other.selector) (new : Item)
    (hn : (insert other.selector among).card < v) :
    Stands ∅ (insert other.selector among) key item (write c v l other new) := by
  obtain ⟨vs, hres, hsel⟩ := h
  unfold write
  rw [variants_of_behind hd hres heq, ← heq]
  exact ⟨_, behind_take_renew_self hc _ _ l, behind_take_renew (hvd _ hres.mem) hsel hne new hn⟩

theorem Stands.lacks_write_beside (h : Stands ahead among key item l) (hd : Distinct l)
    (hvd : ∀ e ∈ l, Distinct e.2) (heq : key.resource = other.resource)
    (hne : key.selector ≠ other.selector) (new : Item)
    (hn : v ≤ (insert other.selector among).card) : Lacks (write c v l other new) key := by
  obtain ⟨vs, hres, hsel⟩ := h
  intro vs' hvs'
  rcases mem_of_mem_renew (List.mem_of_mem_take hvs') with hwritten | ⟨-, hother⟩
  · obtain ⟨-, rfl⟩ := Prod.mk.inj hwritten
    rw [variants_of_behind hd hres heq]
    exact not_mem_take_renew (hvd _ hres.mem) hsel hne new hn
  · exact absurd heq hother

theorem Stands.others (h : Stands ahead among key item l) {resource : ResourceId}
    (hne : key.resource ≠ resource) :
    Stands (ahead.erase resource) among key item (Recency.others resource l) := by
  obtain ⟨vs, hres, hsel⟩ := h
  exact ⟨vs, behind_others hres hne, hsel⟩

theorem Lacks.sublist (h : Lacks l key) {part : Layout} (hsub : part.Sublist l) :
    Lacks part key :=
  fun vs hvs => h vs (hsub.subset hvs)

/-- Only a write under the key itself brings it back. -/
theorem Lacks.write (h : Lacks l key) (c v : Nat) (hne : other ≠ key) (new : Item) :
    Lacks (write c v l other new) key := by
  intro vs hvs hmem
  rcases mem_of_mem_renew (List.mem_of_mem_take hvs) with hwritten | ⟨hvs, -⟩
  · obtain ⟨heq, rfl⟩ := Prod.mk.inj hwritten
    obtain ⟨f, hf, hfst⟩ := List.mem_map.mp hmem
    rcases mem_of_mem_renew (List.mem_of_mem_take hf) with rfl | ⟨hf, -⟩
    · exact hne (Key.ext heq.symm hfst)
    · rw [← heq] at hf
      rcases variants_eq_nil_or_mem l key.resource with hnil | hl
      · rw [hnil] at hf
        cases hf
      · exact h _ hl (List.mem_map.mpr ⟨f, hf, hfst⟩)
  · exact h vs hvs hmem

/-! ## The fate of a key -/

/-- An effect that spares the resource leaves a key where there is room for it, and drops it where
there is none. -/
theorem Stands.apply (h : Stands ahead among key item l) (hd : Distinct l)
    (hvd : ∀ e ∈ l, Distinct e.2) (ha : ahead.card < c) (hm : among.card < v) {e : Effect}
    (hspares : e.Spares key.resource) (hne : ∀ w, e = .write w → w.key ≠ key) :
    ((e.ahead key.resource ahead).card < c ∧ (e.among key.resource among).card < v ∧
      Stands (e.ahead key.resource ahead) (e.among key.resource among) key item
        (apply c v l e)) ∨
    (¬ ((e.ahead key.resource ahead).card < c ∧ (e.among key.resource among).card < v) ∧
      Lacks (apply c v l e) key) := by
  cases e with
  | write w =>
    have hne := hne w rfl
    by_cases heq : w.key.resource = key.resource
    · have hsel : key.selector ≠ w.key.selector := fun hsel => hne (Key.ext heq hsel.symm)
      have hahead : Effect.ahead key.resource ahead (.write w) = ∅ := pushed_of_eq heq ahead
      have hamong : Effect.among key.resource among (.write w) = insert w.key.selector among :=
        if_pos heq
      -- the resource comes to the front, so only its variants can be too many
      rw [hahead, hamong]
      rcases Nat.lt_or_ge (insert w.key.selector among).card v with hn | hn
      · exact Or.inl ⟨by rw [Finset.card_empty]; omega, hn,
          h.write_beside hd hvd (by omega) heq.symm hsel w.item hn⟩
      · exact Or.inr ⟨by omega, h.lacks_write_beside hd hvd heq.symm hsel w.item hn⟩
    · have hahead : Effect.ahead key.resource ahead (.write w) = insert w.key.resource ahead :=
        pushed_of_ne heq ahead
      have hamong : Effect.among key.resource among (.write w) = among := if_neg heq
      -- the variants stay as they are, so only the resources can be too many
      rw [hahead, hamong]
      rcases Nat.lt_or_ge (insert w.key.resource ahead).card c with hn | hn
      · exact Or.inl ⟨hn, hm, h.write_elsewhere hd (Ne.symm heq) w.item hn⟩
      · exact Or.inr ⟨by omega, h.lacks_write_elsewhere hd (Ne.symm heq) w.item hn⟩
  | invalidate resource =>
    have hcard : (ahead.erase resource).card ≤ ahead.card := Finset.card_erase_le
    exact Or.inl ⟨Nat.lt_of_le_of_lt hcard ha, hm, h.others (Ne.symm hspares)⟩
  | clear => exact absurd hspares id
  | nothing => exact Or.inl ⟨ha, hm, h⟩

theorem Lacks.apply (h : Lacks l key) (c v : Nat) {e : Effect}
    (hne : ∀ w, e = .write w → w.key ≠ key) : Lacks (apply c v l e) key := by
  cases e with
  | write w => exact h.write c v (hne w rfl) w.item
  | invalidate resource => exact h.sublist (others_sublist resource l)
  | clear =>
    intro vs hvs
    cases hvs
  | nothing => exact h

/-- After its last write, a key stays while there is room for it, with exactly those in front of it
that the effects put there, and once it is dropped it does not come back. -/
theorem fate (hc : 0 < c) (hv : 0 < v) (before : List Effect) (w : Write) {es : List Effect}
    (hspares : ∀ e ∈ es, e.Spares w.key.resource) (hlast : ∀ later ∈ writes es, later.key ≠ w.key) :
    (Fits c v w.key.resource es ∧
      Stands (resourcesAhead w.key.resource es) (selectorsOf w.key.resource (writes es)) w.key
        w.item (after c v (before ++ .write w :: es))) ∨
    (¬ Fits c v w.key.resource es ∧ Lacks (after c v (before ++ .write w :: es)) w.key) := by
  induction es using List.reverseRecOn with
  | nil =>
    rw [after_concat]
    exact Or.inl ⟨fits_nil hc hv w.key.resource,
      stands_write_self hc hv (after c v before) w.key w.item⟩
  | append_singleton es e ih =>
    have hrec := recorded_after c v (before ++ .write w :: es)
    have hassoc : before ++ .write w :: (es ++ [e]) = (before ++ .write w :: es) ++ [e] := by
      rw [List.append_assoc, List.cons_append]
    have hwrites : ∀ later ∈ writes es, later.key ≠ w.key := fun later hlater =>
      hlast later (by rw [writes, List.filterMap_append]; exact List.mem_append_left _ hlater)
    have hne : ∀ w', e = .write w' → w'.key ≠ w.key := by
      rintro w' rfl
      exact hlast w' (by rw [writes_concat_write]; simp)
    rw [hassoc, after_concat, fits_concat, resourcesAhead_concat, selectorsOf_writes_concat]
    rcases ih (fun f hf => hspares f (List.mem_append_left _ hf)) hwrites with
      ⟨hfits, hstands⟩ | ⟨hfits, hlacks⟩
    · have ha := hfits.resources es List.prefix_rfl
      rcases hstands.apply hrec.distinct (fun _ => hrec.distinct_of_mem) ha hfits.selectors
        (hspares e (by simp)) hne with ⟨ha', hm', hstands'⟩ | ⟨hfull, hlacks⟩
      · exact Or.inl ⟨⟨hfits, ha', hm'⟩, hstands'⟩
      · exact Or.inr ⟨fun hfits' => hfull hfits'.2, hlacks⟩
    · -- there was no room before, and only a write under the key would bring it back
      exact Or.inr ⟨fun hfits' => hfits hfits'.1, hlacks.apply c v hne⟩

end Layout

/-! ## What is stored after a run -/

/-- A write of the history was an effect of the run. -/
theorem exists_effect_of_writes {es : List Effect} {before after : List Write} {w : Write}
    (h : writes es = before ++ w :: after) :
    ∃ front back, es = front ++ .write w :: back ∧ writes back = after := by
  obtain ⟨front, rest, rfl, -, hrest⟩ := List.filterMap_eq_append_iff.mp h
  obtain ⟨skipped, e, back, rfl, -, he, hback⟩ := List.filterMap_eq_cons_iff.mp hrest
  have hwrite : e = .write w := by
    cases e with
    | write w' => exact congrArg Effect.write (Option.some.inj he)
    | invalidate resource => cases he
    | clear => cases he
    | nothing => cases he
  exact ⟨front ++ skipped, back, by rw [hwrite, List.append_assoc], hback⟩

namespace Store

variable {s : Store}

theorem Valid.get?_of_stands (h : s.Valid) {ahead : Finset ResourceId} {among : Finset Selector}
    {key : Key} {item : Item} (hstands : Layout.Stands ahead among key item s.layout) :
    s.get? key = some item := by
  obtain ⟨vs, hres, hsel⟩ := hstands
  exact h.get?_eq_some_iff.mpr ⟨vs, hres.mem, hsel.mem⟩

theorem Valid.not_lacks (h : s.Valid) {key : Key} {item : Item} (hget : s.get? key = some item) :
    ¬ Layout.Lacks s.layout key := by
  obtain ⟨vs, hvs, hitem⟩ := h.get?_eq_some_iff.mp hget
  exact fun hlacks => hlacks vs hvs (List.mem_map_of_mem hitem)

variable {capacity variantCapacity : Nat} {ops : List Operation}

/-- A write is still there if later writes left room for it and nothing took it out. -/
theorem get?_of_spaced (hc : 0 < capacity) (hv : 0 < variantCapacity) {before after : List Effect}
    {w : Write} (hops : effects ops = before ++ .write w :: after)
    (hspares : ∀ e ∈ after, e.Spares w.key.resource)
    (hlast : ∀ later ∈ writes after, later.key ≠ w.key)
    (hspaced : Spaced capacity w.key.resource (writes after))
    (hsel : (selectorsOf w.key.resource (writes after)).card < variantCapacity) :
    ((empty capacity variantCapacity).run ops).get? w.key = some w.item := by
  have hvalid := valid_run (valid_empty hc hv) ops
  have hlayout := layout_run hc hv ops
  rw [hops] at hlayout
  rcases Layout.fate hc hv before w hspares hlast with ⟨-, hstands⟩ | ⟨hfits, -⟩
  · rw [← hlayout] at hstands
    exact hvalid.get?_of_stands hstands
  · exact absurd (fits_of_spaced hspaced hsel) hfits

/-- Without removals, later writes have left room for whatever is stored. -/
theorem spaced_of_get? (hc : 0 < capacity) (hv : 0 < variantCapacity)
    (hspares : ∀ e ∈ effects ops, ∀ resource, e.Spares resource) {w : Write} {after : List Write}
    (hlast : LastWrite (writes (effects ops)) w after) {item : Item}
    (hget : ((empty capacity variantCapacity).run ops).get? w.key = some item) :
    Spaced capacity w.key.resource after ∧
      (selectorsOf w.key.resource after).card < variantCapacity := by
  obtain ⟨before, hplaced⟩ := hlast.placed
  obtain ⟨front, back, hops, rfl⟩ := exists_effect_of_writes hplaced
  have hback : ∀ e ∈ back, ∀ resource, e.Spares resource := by
    intro e he
    exact hspares e (by rw [hops]; simp [he])
  have hlayout := layout_run hc hv ops
  rw [hops] at hlayout
  rcases Layout.fate hc hv front w (fun e he => hback e he _) hlast.final with
    ⟨hfits, -⟩ | ⟨-, hlacks⟩
  · exact ⟨hfits.spaced hback, hfits.selectors⟩
  · rw [← hlayout] at hlacks
    exact absurd hlacks ((valid_run (valid_empty hc hv) ops).not_lacks hget)

/-- What a run without removals leaves under a key is what its last write put there, as far as later
writes have left room for it. -/
theorem get?_eq_some_iff_spaced (hc : 0 < capacity) (hv : 0 < variantCapacity)
    (hspares : ∀ e ∈ effects ops, ∀ resource, e.Spares resource) {key : Key} {item : Item} :
    ((empty capacity variantCapacity).run ops).get? key = some item ↔
      ∃ w after, LastWrite (writes (effects ops)) w after ∧ w.key = key ∧ w.item = item ∧
        Spaced capacity key.resource after ∧
        (selectorsOf key.resource after).card < variantCapacity := by
  constructor
  · intro hget
    obtain ⟨vs, hvs, hitem⟩ :=
      (valid_run (valid_empty hc hv) ops).get?_eq_some_iff.mp hget
    obtain ⟨w, after, hlast, hkey, hwitem⟩ := (recorded_run hc hv ops).items _ hvs _ hitem
    have hkey : w.key = key := hkey
    subst hkey
    obtain ⟨hspaced, hsel⟩ := spaced_of_get? hc hv hspares hlast hget
    exact ⟨w, after, hlast, rfl, hwitem, hspaced, hsel⟩
  · rintro ⟨w, after, hlast, rfl, rfl, hspaced, hsel⟩
    obtain ⟨before, hplaced⟩ := hlast.placed
    obtain ⟨front, back, hops, rfl⟩ := exists_effect_of_writes hplaced
    refine get?_of_spaced hc hv hops (fun e he => ?_) hlast.final hspaced hsel
    exact hspares e (by rw [hops]; simp [he]) w.key.resource

/-- After a run without removals, a key is stored if and only if it was written and, since its last
write, fewer than `capacity` resources were written in each gap between the writes to its resource
and fewer than `variantCapacity` selectors there. What is stored is the item of that write.
Resources stand in the order of their last writes, and so do the variants of each. In any run, a
write with that much room after it is still stored if nothing took out its resource. -/
theorem retention_of_run (hc : 0 < capacity) (hv : 0 < variantCapacity) (ops : List Operation) :
    let s := (empty capacity variantCapacity).run ops
    let history := writes (effects ops)
    ((∀ op ∈ ops, ∀ resource, op.effect.Spares resource) → ∀ key item,
      s.get? key = some item ↔ ∃ w after, LastWrite history w after ∧ w.key = key ∧
        w.item = item ∧ Spaced capacity key.resource after ∧
        (selectorsOf key.resource after).card < variantCapacity) ∧
    (s.resources.keys.Pairwise fun a b => resourceAge history a < resourceAge history b) ∧
    (∀ e ∈ s.resources.entries, e.2.keys.Pairwise fun a b =>
      keyAge history ⟨e.1, a⟩ < keyAge history ⟨e.1, b⟩) ∧
    (∀ before op after w, ops = before ++ op :: after → op.effect = .write w →
      (∀ later ∈ after, later.effect.Spares w.key.resource) →
      (∀ later ∈ writes (effects after), later.key ≠ w.key) →
      Spaced capacity w.key.resource (writes (effects after)) →
      (selectorsOf w.key.resource (writes (effects after))).card < variantCapacity →
      s.get? w.key = some w.item) := by
  intro s history
  have hrecorded : Recorded history s.layout := recorded_run hc hv ops
  refine ⟨fun hspares key item => ?_, ?_, fun e he => ?_, ?_⟩
  · exact get?_eq_some_iff_spaced hc hv (List.forall_mem_map.mpr hspares)
  · rw [← map_fst_layout]
    exact hrecorded.resources
  · exact hrecorded.variants _ (List.mem_map_of_mem he)
  · intro before op after w hops hwrite hspares hlast hspaced hsel
    have heffects : effects ops = effects before ++ .write w :: effects after := by
      rw [hops, effects, List.map_append, List.map_cons, hwrite]
      rfl
    exact get?_of_spaced hc hv heffects (List.forall_mem_map.mpr hspares) hlast hspaced hsel

/-- Of three pages the last two are kept: there is room for one more after the second one. -/
theorem retention_of_crowded :
    ((empty 2 1).run crowded).get? (.ofExchange (.forPage "b" []) {}) = some ⟨{}, 2⟩ ∧
    ((empty 2 1).run crowded).get? (.ofExchange (.forPage "c" []) {}) = some ⟨{}, 3⟩ := by
  obtain ⟨hiff, -, -, hstays⟩ :=
    retention_of_run (by decide : 0 < 2) (by decide : 0 < 1) crowded
  have hspares : ∀ op ∈ crowded, ∀ resource, op.effect.Spares resource := by
    simp [crowded, Operation.effect, Store.buffer, Effect.Spares]
  constructor
  · refine (hiff hspares _ _).mpr ⟨⟨.forPage "b" [], {}, ⟨{}, 2⟩⟩,
      [⟨.forPage "c" [], {}, ⟨{}, 3⟩⟩], ⟨⟨(writes (effects crowded)).take 2, ?_⟩, ?_⟩, rfl, rfl,
      ?_, ?_⟩
    · decide +kernel
    · decide +kernel
    · decide +kernel
    · decide +kernel
  · exact hstays (crowded.take 3) _ [] ⟨.forPage "c" [], {}, ⟨{}, 3⟩⟩ rfl rfl (by simp)
      (by decide) (by decide +kernel) (by decide +kernel)

end Store

end VariantStore
