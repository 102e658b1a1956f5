import FormBuilder.RateLimit
import Mathlib.Algebra.Order.Group.Int
import Mathlib.Algebra.Order.Group.Unbundled.Basic
/-! The windows of a limiter whose clock does not round and never goes back. A key has one window at most, and all
that a call does and answers is told by the window of its own key. -/
namespace FormBuilder
variable {τ : Type}

-- A clock that does not round.
class Moment.Exact (τ : Type) [AddCommGroup τ] [LinearOrder τ] [Moment τ] : Prop where
  since : ∀ a b : τ, Moment.since a b = a - b
  atLeast : ∀ a b : τ, Moment.atLeast a b = true ↔ b ≤ a

instance : Moment.Exact Int := ⟨fun _ _ => rfl,fun _ _ => decide_eq_true_iff⟩

def Window.lasts [AddCommGroup τ] [LinearOrder τ] (length now : τ) (w : Window τ) : Bool :=
  decide (now < w.openedAt + length)

theorem Window.lastsEarlier [AddCommGroup τ] [LinearOrder τ] {length now later : τ} {w : Window τ} (ordered : now ≤ later)
    (lasts : w.lasts length later = true) : w.lasts length now = true := by
  simp only [Window.lasts,decide_eq_true_iff] at lasts ⊢
  exact lt_of_le_of_lt ordered lasts

namespace Limiter

def weigh (most : Int) (now : τ) (key : String) : Option (Window τ) → Window τ × Bool
  | none => (⟨key,now,1⟩,true)
  | some w => if most ≤ w.count then (w,false) else ({ w with count := w.count + 1 },true)

def room (most : Int) : Option (Window τ) → Int
  | none => most
  | some w => max (most - w.count) 0

def Sole (l : Limiter τ) : Prop := (l.windows.map (·.key)).Nodup

theorem findAmong {windows : List (Window τ)} (sole : (windows.map (·.key)).Nodup) (among : Window τ → Bool)
    (key : String) : (windows.filter among).find? (fun w => w.key == key) =
      (windows.find? (fun w => w.key == key)).filter among := by
  induction windows with
  | nil => rfl
  | cons w rest ih =>
    obtain ⟨other,sole⟩ := List.nodup_cons.mp sole
    by_cases own : w.key = key
    · have none : (rest.filter among).find? (fun w => w.key == key) = none := by
        refine List.find?_eq_none.mpr fun v member same => other (List.mem_map.mpr ⟨v,?_,?_⟩)
        · exact (List.mem_filter.mp member).1
        · exact (beq_iff_eq.mp same).trans own.symm
      cases inside : among w <;> simp [inside,own,none,Option.filter]
    · cases inside : among w <;> simp [inside,own,ih sole]

theorem countKeys (l : Limiter τ) (key : String) : (l.count key).windows.map (·.key) = l.windows.map (·.key) := by
  rw [count,List.map_map]
  refine List.map_congr_left fun w _ => ?_
  simp only [Function.comp_apply]
  split <;> rfl

theorem findCounted (l : Limiter τ) (among : Window τ → Bool) (blind : ∀ w n, among { w with count := n } = among w)
    (key other : String) : ((l.count key).windows.filter among).find? (fun w => w.key == other) =
      ((l.windows.filter among).find? (fun w => w.key == other)).map
        (fun w => if other = key then { w with count := w.count + 1 } else w) := by
  let counted (w : Window τ) : Window τ := if w.key = key then { w with count := w.count + 1 } else w
  have inside : among ∘ counted = among := by
    funext w
    show among (if _ then _ else _) = _
    split
    · exact blind w _
    · rfl
  have named : (fun w => w.key == other) ∘ counted = (fun w => w.key == other) := by
    funext w
    show ((if _ then _ else _ : Window τ).key == other) = _
    split <;> rfl
  show ((l.windows.map counted).filter among).find? _ = _
  rw [List.filter_map,List.find?_map,inside,named]
  refine Option.map_congr fun w found => ?_
  have own : w.key = other := by simpa using List.find?_some found
  simp only [counted,own]

section
variable [Moment τ]

def open? (l : Limiter τ) (now : τ) (key : String) : Option (Window τ) := (l.evict now).find? key

theorem allowFree {l : Limiter τ} {now : τ} {key : String} (free : l.open? now key = none) :
    l.allow now key = ({ l.evict now with windows := (l.evict now).windows ++ [⟨key,now,1⟩] },true) := by
  have free : (l.evict now).find? key = none := free
  simp only [allow,free]

theorem allowFull {l : Limiter τ} {now : τ} {key : String} {w : Window τ} (found : l.open? now key = some w)
    (full : l.most ≤ w.count) : l.allow now key = (l.evict now,false) := by
  have found : (l.evict now).find? key = some w := found
  simp only [allow,found]
  exact if_pos full

theorem allowCounted {l : Limiter τ} {now : τ} {key : String} {w : Window τ} (found : l.open? now key = some w)
    (fits : ¬ l.most ≤ w.count) : l.allow now key = ((l.evict now).count key,true) := by
  have found : (l.evict now).find? key = some w := found
  simp only [allow,found]
  exact if_neg fits

theorem allowAdmits (l : Limiter τ) (now : τ) (key : String) :
    (l.allow now key).2 = (weigh l.most now key (l.open? now key)).2 := by
  cases found : l.open? now key with
  | none => rw [allowFree found,weigh]
  | some w =>
    by_cases full : l.most ≤ w.count
    · rw [allowFull found full,weigh,if_pos full]
    · rw [allowCounted found full,weigh,if_neg full]

theorem openAmong {l : Limiter τ} (sole : l.Sole) (now : τ) (key : String) :
    l.open? now key = (l.find? key).filter (fun w => !l.passed now w) := findAmong sole _ key

theorem evictSole {l : Limiter τ} (sole : l.Sole) (now : τ) : (l.evict now).Sole :=
  sole.sublist (List.filter_sublist.map _)

theorem remainingRoom {l : Limiter τ} (sole : l.Sole) (now : τ) (key : String) :
    l.remaining now key = room l.most (l.open? now key) := by
  rw [openAmong sole,remaining]
  cases found : l.find? key with
  | none => rfl
  | some w => cases passed : l.passed now w <;> simp [Option.filter,passed,room]

theorem allowKept {l : Limiter τ} (sole : l.Sole) (now : τ) (key : String) :
    (l.allow now key).1.most = l.most ∧ (l.allow now key).1.length = l.length ∧ (l.allow now key).1.Sole := by
  have evicted := evictSole sole now
  cases found : l.open? now key with
  | none =>
    rw [allowFree found]
    refine ⟨rfl,rfl,?_⟩
    rw [Sole,List.map_append,List.map_singleton,List.nodup_append]
    refine ⟨evicted,List.pairwise_singleton _ _,fun k known other new same => ?_⟩
    obtain ⟨w,member,rfl⟩ := List.mem_map.mp known
    rw [List.mem_singleton.mp new] at same
    exact List.find?_eq_none.mp found w member (beq_iff_eq.mpr same)
  | some w =>
    by_cases full : l.most ≤ w.count
    · rw [allowFull found full]
      exact ⟨rfl,rfl,evicted⟩
    · rw [allowCounted found full]
      refine ⟨rfl,rfl,?_⟩
      rw [Sole,countKeys]
      exact evicted

theorem evictOpens {l : Limiter τ} {now later : τ} (gone : ∀ w, l.passed now w = true → l.passed later w = true)
    (key : String) : (l.evict now).open? later key = l.open? later key := by
  have again : (l.windows.filter (fun w => !l.passed now w)).filter (fun w => !l.passed later w) =
      l.windows.filter (fun w => !l.passed later w) := by
    rw [List.filter_filter]
    refine List.filter_congr fun w _ => ?_
    cases early : l.passed now w with
    | false => simp
    | true => simp [gone w early]
  exact congrArg (List.find? (fun w => w.key == key)) again

theorem allowOpens {l : Limiter τ} (sole : l.Sole) {now later : τ}
    (gone : ∀ w, l.passed now w = true → l.passed later w = true) (key other : String) :
    (l.allow now key).1.open? later other =
      if other = key then (some (weigh l.most now key (l.open? now key)).1).filter (fun w => !l.passed later w)
      else l.open? later other := by
  have own : l.open? later key = (l.open? now key).filter (fun w => !l.passed later w) :=
    (evictOpens gone key).symm.trans (openAmong (evictSole sole now) later key)
  have kept (k : String) : ((l.evict now).windows.filter (fun w => !l.passed later w)).find?
      (fun w => w.key == k) = l.open? later k := evictOpens gone k
  cases found : l.open? now key with
  | none =>
    rw [found] at own
    rw [allowFree found]
    have opened := List.filter_append (p := fun w => !l.passed later w) (l.evict now).windows [⟨key,now,1⟩]
    refine (congrArg (List.find? (fun w => w.key == other)) opened).trans ?_
    rw [List.find?_append,kept other]
    by_cases same : other = key
    · subst same
      rw [if_pos rfl,own]
      cases passed : l.passed later ⟨other,now,1⟩ <;> simp [weigh,passed,Option.filter]
    · rw [if_neg same]
      have elsewhere : (List.filter (fun w => !l.passed later w) [⟨key,now,1⟩]).find? (fun w => w.key == other) = none := by
        refine List.find?_eq_none.mpr fun w member => ?_
        rw [List.mem_singleton.mp (List.mem_filter.mp member).1]
        simpa using Ne.symm same
      rw [elsewhere,Option.or_none]
  | some w =>
    rw [found] at own
    by_cases full : l.most ≤ w.count
    · rw [allowFull found full,evictOpens gone,weigh,if_pos full]
      split
      · rename_i same
        rw [same,own]
      · rfl
    · rw [allowCounted found full,weigh,if_neg full]
      refine (findCounted (l.evict now) (fun w => !l.passed later w) (fun _ _ => rfl) key other).trans ?_
      refine (congrArg _ (kept other)).trans ?_
      by_cases same : other = key
      · subst same
        rw [own]
        have blind : l.passed later { w with count := w.count + 1 } = l.passed later w := rfl
        cases passed : l.passed later w <;> simp [Option.filter,passed,blind]
      · simp [same]

end

variable [AddCommGroup τ] [LinearOrder τ] [IsOrderedAddMonoid τ] [Moment τ] [Moment.Exact τ]

theorem passedLasts (l : Limiter τ) (now : τ) (w : Window τ) : (!l.passed now w) = w.lasts l.length now := by
  have passed : l.passed now w = true ↔ w.openedAt + l.length ≤ now := by
    rw [Limiter.passed,Moment.Exact.atLeast,Moment.Exact.since,le_sub_iff_add_le']
  rw [Window.lasts,Bool.eq_iff_iff,Bool.not_eq_true',decide_eq_true_iff,← not_le,← passed,Bool.not_eq_true]

theorem allowOpen {l : Limiter τ} (sole : l.Sole) {now later : τ} (ordered : now ≤ later) (key other : String) :
    (l.allow now key).1.open? later other =
      if other = key then (some (weigh l.most now key (l.open? now key)).1).filter (Window.lasts l.length later)
      else l.open? later other := by
  have gone (w : Window τ) (passed : l.passed now w = true) : l.passed later w = true := by
    cases lasts : w.lasts l.length later with
    | false => exact Bool.not_eq_eq_eq_not.mp ((passedLasts l later w).trans lasts)
    | true => simpa [passed] using (passedLasts l now w).trans (Window.lastsEarlier ordered lasts)
  simpa only [passedLasts] using allowOpens sole gone key other

end Limiter
end FormBuilder
