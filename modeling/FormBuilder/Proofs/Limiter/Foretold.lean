import FormBuilder.Proofs.Limiter.Granted
/-! What a limiter says is left under a key. Of the requests that come next at the same moment just as many are let
through, and then none: a request takes one of what is left as long as there is any, and no other call takes one. -/
namespace FormBuilder.Limiter
variable {τ : Type}

def answered (key : String) : Ask τ × Response → Option Bool
  | (.allow _ k,.allowed through) => if k = key then some through else none
  | _ => none

theorem weighRoom {most : Int} (positive : 1 ≤ most) (now : τ) (key : String) (v : Option (Window τ)) :
    (weigh most now key v).2 = decide (0 < room most v) ∧
      room most (some (weigh most now key v).1) = max (room most v - 1) 0 := by
  cases v with
  | none =>
    simp only [weigh,room]
    exact ⟨(decide_eq_true positive).symm,rfl⟩
  | some w =>
    by_cases full : most ≤ w.count
    · simp only [weigh,room,if_pos full]
      exact ⟨(decide_eq_false (by omega)).symm,by omega⟩
    · simp only [weigh,room,if_neg full]
      refine ⟨(decide_eq_true (by omega)).symm,?_⟩
      simp only [Int.natCast_add,Int.natCast_one]
      omega

variable [Moment τ]

inductive Reached (most : Int) (length : τ) : Limiter τ → Prop where
  | fresh : Reached most length ⟨most,length,[]⟩
  | allowed {l} (before : Reached most length l) (now : τ) (key : String) : Reached most length (l.allow now key).1
  | reset {l} (before : Reached most length l) : Reached most length l.reset

theorem Reached.kept {most : Int} {length : τ} {l : Limiter τ} (reached : Reached most length l) :
    l.most = most ∧ l.length = length ∧ l.Sole := by
  induction reached with
  | fresh => exact ⟨rfl,rfl,List.nodup_nil⟩
  | allowed before now key ih =>
    obtain ⟨limit,lasting,sole⟩ := ih
    obtain ⟨limit',lasting',sole'⟩ := allowKept sole now key
    exact ⟨limit'.trans limit,lasting'.trans lasting,sole'⟩
  | reset before ih => exact ⟨ih.1,ih.2.1,List.nodup_nil⟩

def answers (l : Limiter τ) (key : String) (asks : List (Ask τ)) : List Bool := (l.log asks).filterMap (answered key)

def Lasting (length : τ) : Prop := ∀ t : τ, Moment.atLeast (Moment.since t t) length = false

theorem lastingRounded {length : Double} (positive : Double.lt .zero length = true) : Lasting length := by
  have short (x : Double) (few : x = .zero ∨ x = .nan) : Double.le length x = false := by
    rcases few with rfl | rfl <;> simp [Double.le,positive,Double.isNan]
  intro t
  refine short _ ?_
  show Double.sub t t = _ ∨ Double.sub t t = _
  cases t with
  | nan => exact .inr rfl
  | infinite negative => exact .inr (if_pos rfl)
  | finite x =>
    left
    simp only [Double.sub,Int.sub_self]
    rfl

theorem remainingUnseen (l : Limiter τ) (before later : List (Ask τ)) (now : τ) (key : String) :
    l.log (before ++ .remaining now key :: later) =
      (l.log (before ++ later)).insertIdx before.length
        (.remaining now key,.left ((l.after before).remaining now key)) := by
  induction before generalizing l with
  | nil => rfl
  | cons a rest ih => exact congrArg _ (ih (l.serve a).1)

/-! ### One request -/

theorem weighLasts {l : Limiter τ} (lasting : Lasting l.length) {now : τ} (key : String) {v : Option (Window τ)}
    (lasts : ∀ w, v = some w → l.passed now w = false) : l.passed now (weigh l.most now key v).1 = false := by
  cases v with
  | none => exact lasting now
  | some w =>
    have still := lasts w rfl
    simp only [weigh]
    split
    · exact still
    · exact still

section
variable {l : Limiter τ} (positive : 1 ≤ l.most) (lasting : Lasting l.length) (sole : l.Sole)
include positive sole

theorem allowRemaining (now : τ) (key : String) : (l.allow now key).2 = decide (0 < l.remaining now key) := by
  rw [allowAdmits,remainingRoom sole]
  exact (weighRoom positive now key _).1

include lasting

theorem remainingAllowed (now : τ) (key other : String) :
    (l.allow now key).1.remaining now other =
      if other = key then max (l.remaining now key - 1) 0 else l.remaining now other := by
  obtain ⟨limit,-,sole'⟩ := allowKept sole now key
  rw [remainingRoom sole',limit,allowOpens sole (fun _ passed => passed) key other,remainingRoom sole,remainingRoom sole]
  split
  · have lasts (w : Window τ) (found : l.open? now key = some w) : l.passed now w = false := by
      have among := List.mem_of_find?_eq_some (show (l.evict now).windows.find? _ = some w from found)
      simpa using (List.mem_filter.mp among).2
    have still := weighLasts lasting key lasts
    rw [← (weighRoom positive now key _).2]
    congr 1
    simp [Option.filter,still]
  · rfl

/-! ### Requests at one moment -/

theorem answersForetold (key : String) {now : τ} {asks : List (Ask τ)} (together : ∀ a ∈ asks, a.moment = now) :
    l.answers key asks =
      (List.range (called key asks).length).map (fun (i : Nat) => decide ((i : Int) < l.remaining now key)) := by
  induction asks generalizing l with
  | nil => rfl
  | cons a rest ih =>
    obtain ⟨here,others⟩ := List.forall_mem_cons.mp together
    cases a with
    | remaining t k =>
      rw [calledNone rfl]
      exact ih positive lasting sole others
    | allow t k =>
      have here : t = now := here
      subst here
      obtain ⟨limit,same,sole'⟩ := allowKept sole t k
      have next := ih (limit.symm ▸ positive) (same.symm ▸ lasting) sole' others
      have takes := remainingAllowed positive lasting sole t k key
      by_cases own : k = key
      · subst own
        have one : (Ask.allow t k).called k = some t := if_pos rfl
        have told : answered k (.allow t k,.allowed (l.allow t k).2) = some (l.allow t k).2 := if_pos rfl
        rw [if_pos rfl] at takes
        rw [calledOne one,List.length_cons,List.range_succ_eq_map,List.map_cons,List.map_map,answers,log]
        refine (List.filterMap_cons_some told).trans ?_
        refine congrArg₂ List.cons (allowRemaining positive sole t k) (next.trans ?_)
        rw [takes]
        refine List.map_congr_left fun i _ => decide_eq_decide.mpr ?_
        simp only [Nat.succ_eq_add_one,Int.natCast_add,Int.natCast_one]
        omega
      · have none : (Ask.allow t k).called key = Option.none := if_neg own
        have told : answered key (.allow t k,.allowed (l.allow t k).2) = Option.none := if_neg own
        rw [if_neg (Ne.symm own)] at takes
        rw [calledNone none,answers,log]
        exact (List.filterMap_cons_none told).trans (takes ▸ next)

end

/-- As long as windows last at all, a limiter that says how many requests are left under a key lets just as many through
of those that come next at the same moment, whatever comes between them, and none after them. Saying so changes no
answer. -/
theorem remainingForetells {most : Int} (positive : 1 ≤ most) {length : Double} (lasting : Double.lt .zero length = true)
    {l : Limiter Double} (reached : Reached most length l) (key : String) (now : Double) :
    (∀ asks, (∀ a ∈ asks, a.moment = now) →
      l.answers key asks =
        (List.range (called key asks).length).map (fun (i : Nat) => decide ((i : Int) < l.remaining now key))) ∧
    ∀ before t other later, l.log (before ++ .remaining t other :: later) =
      (l.log (before ++ later)).insertIdx before.length (.remaining t other,.left ((l.after before).remaining t other)) := by
  obtain ⟨limit,same,sole⟩ := reached.kept
  refine ⟨fun asks together => ?_,fun before t other later => remainingUnseen l before later t other⟩
  exact answersForetold (limit.symm ▸ positive) (same.symm ▸ lastingRounded lasting) sole key together

theorem emptyWindowLetsAll :
    let l : Limiter Double := ⟨1,.zero,[]⟩
    l.remaining .zero "a" = 1 ∧ l.answers "a" [.allow .zero "a",.allow .zero "a"] = [true,true] := by
  decide +kernel

theorem lastOneForetold :
    let l : Limiter Double := ((Limiter.allow ⟨3,.ofInt 60,[]⟩ .zero "a").1.allow (.ofInt 10) "a").1
    let now : Double := .ofInt 10
    let asks : List (Ask Double) := [.allow now "b",.allow now "a",.remaining now "a",.allow now "a",.allow now "b"]
    l.remaining now "a" = 1 ∧ l.answers "a" asks = [true,false] := by
  intro l now asks
  have reached : Reached 3 (.ofInt 60) l := (Reached.fresh.allowed _ _).allowed _ _
  have left : l.remaining now "a" = 1 := by decide +kernel
  have together : ∀ a ∈ asks, a.moment = now := by decide +kernel
  have told := (remainingForetells (by decide) (by decide +kernel) reached "a" now).1 asks together
  rw [left] at told
  exact ⟨left,told⟩

end FormBuilder.Limiter
