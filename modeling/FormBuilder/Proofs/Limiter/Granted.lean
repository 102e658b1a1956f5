import FormBuilder.Proofs.Limiter.Lone
/-! Runs of a limiter. What is answered under a key is what would be answered if nobody asked under another one, so
the windows of every key follow each other as if they were the only ones. -/
namespace FormBuilder.Limiter
variable {τ : Type}

inductive Ask (τ : Type) where
  | allow (now : τ) (key : String)
  | remaining (now : τ) (key : String)

inductive Response where
  | allowed (through : Bool)
  | left (n : Int)

namespace Ask

def moment : Ask τ → τ
  | allow now _ | remaining now _ => now

def key : Ask τ → String
  | allow _ key | remaining _ key => key

def called (key : String) : Ask τ → Option τ
  | allow now k => if k = key then some now else none
  | remaining _ _ => none

theorem calledMoment {key : String} {a : Ask τ} {t : τ} (called : a.called key = some t) : t = a.moment := by
  cases a with
  | allow now k =>
    simp only [Ask.called] at called
    split at called
    · exact (Option.some.inj called).symm
    · contradiction
  | remaining now k => contradiction

theorem calledOther {key : String} {a : Ask τ} (other : a.key ≠ key) : a.called key = none := by
  cases a with
  | allow now k => exact if_neg other
  | remaining now k => rfl

end Ask

def called (key : String) (asks : List (Ask τ)) : List τ := asks.filterMap (Ask.called key)

theorem calledOne {key : String} {a : Ask τ} {t : τ} (one : a.called key = some t) (rest : List (Ask τ)) :
    called key (a :: rest) = t :: called key rest := List.filterMap_cons_some one

theorem calledNone {key : String} {a : Ask τ} (none : a.called key = none) (rest : List (Ask τ)) :
    called key (a :: rest) = called key rest := List.filterMap_cons_none none

def letThrough (key : String) : Ask τ × Response → Option τ
  | (a,.allowed true) => a.called key
  | _ => none

section
variable [Moment τ]

def serve (l : Limiter τ) : Ask τ → Limiter τ × Response
  | .allow now key => ((l.allow now key).1,.allowed (l.allow now key).2)
  | .remaining now key => (l,.left (l.remaining now key))

def after (l : Limiter τ) (asks : List (Ask τ)) : Limiter τ := asks.foldl (fun l a => (l.serve a).1) l

def log (l : Limiter τ) : List (Ask τ) → List (Ask τ × Response)
  | [] => []
  | a :: rest => (a,(l.serve a).2) :: log (l.serve a).1 rest

theorem logAsked (l : Limiter τ) (asks : List (Ask τ)) : (l.log asks).map (·.1) = asks := by
  induction asks generalizing l with
  | nil => rfl
  | cons a rest ih => rw [log,List.map_cons,ih]

def granted (l : Limiter τ) (key : String) (asks : List (Ask τ)) : List τ :=
  (l.log asks).filterMap (letThrough key)

end

variable [LinearOrder τ]

def Ordered (now : τ) (asks : List (Ask τ)) : Prop := (now :: asks.map Ask.moment).Pairwise (· ≤ ·)

theorem orderedSince [Zero τ] {asks : List (Ask τ)} (ordered : (asks.map Ask.moment).Pairwise (· ≤ ·)) :
    ∃ now, Ordered now asks := by
  cases asks with
  | nil => exact ⟨0,List.pairwise_singleton _ _⟩
  | cons a rest =>
    refine ⟨a.moment,List.pairwise_cons.mpr ⟨fun x member => ?_,ordered⟩⟩
    rcases List.mem_cons.mp member with rfl | later
    · exact le_refl _
    · exact (List.pairwise_cons.mp ordered).1 x later

theorem orderedApart {now : τ} {before later : List (Ask τ)} {a : Ask τ} (ordered : Ordered now (before ++ a :: later)) :
    Ordered now before ∧ (∀ b ∈ before, b.moment ≤ a.moment) ∧ now ≤ a.moment ∧ Ordered a.moment later := by
  rw [Ordered,List.map_append,List.map_cons,← List.cons_append,List.pairwise_append] at ordered
  obtain ⟨early,late,across⟩ := ordered
  have upTo (t : τ) (member : t ∈ now :: before.map Ask.moment) : t ≤ a.moment := across t member _ List.mem_cons_self
  exact ⟨early,fun b member => upTo _ (List.mem_cons_of_mem _ (List.mem_map_of_mem member)),upTo now List.mem_cons_self,late⟩

theorem calledOrdered (key : String) {asks : List (Ask τ)} (ordered : (asks.map Ask.moment).Pairwise (· ≤ ·)) :
    (called key asks).Pairwise (· ≤ ·) := by
  refine List.pairwise_filterMap.mpr ((List.pairwise_map.mp ordered).imp fun sooner s first t second => ?_)
  rw [Ask.calledMoment first,Ask.calledMoment second]
  exact sooner

variable [AddCommGroup τ]

def answer (most : Int) (length : τ) (v : Option (Window τ)) : Ask τ → Option (Window τ) × Response
  | .allow now key =>
    let outcome := weigh most now key (v.filter (Window.lasts length now))
    (some outcome.1,.allowed outcome.2)
  | .remaining now _ => (v,.left (room most (v.filter (Window.lasts length now))))

def alone (most : Int) (length : τ) (v : Option (Window τ)) : List (Ask τ) → List (Ask τ × Response)
  | [] => []
  | a :: rest => (a,(answer most length v a).2) :: alone most length (answer most length v a).1 rest

-- How a limiter stands towards a key whose last window is `v`.
structure Stands [Moment τ] (most : Int) (length now : τ) (key : String) (v : Option (Window τ)) (l : Limiter τ) : Prop where
  limit : l.most = most
  lasting : l.length = length
  sole : l.Sole
  window : ∀ later, now ≤ later → l.open? later key = v.filter (Window.lasts length later)

structure Opens [Moment τ] (l : Limiter τ) (now : τ) (key : String) : Prop where
  free : l.open? now key = none
  through : (l.allow now key).2 = true
  opened : (l.allow now key).1.open? now key = some ⟨key,now,1⟩

section
variable [Moment τ] {most : Int} {length now : τ} {key : String} {v : Option (Window τ)} {l : Limiter τ}

theorem freshStands (most : Int) (length now : τ) (key : String) : Stands most length now key none ⟨most,length,[]⟩ :=
  ⟨rfl,rfl,List.nodup_nil,fun _ _ => rfl⟩

theorem Stands.later {later : τ} (stands : Stands most length now key v l) (ordered : now ≤ later) :
    Stands most length later key v l :=
  ⟨stands.limit,stands.lasting,stands.sole,fun t after => stands.window t (ordered.trans after)⟩

theorem Stands.answer (stands : Stands most length now key v l) {a : Ask τ} (later : now ≤ a.moment) (own : a.key = key) :
    (l.serve a).2 = (Limiter.answer most length v a).2 := by
  subst own
  have window := stands.window a.moment later
  cases a with
  | allow now k =>
    simp only [Ask.moment,Ask.key] at window
    simp only [serve,Limiter.answer,allowAdmits,window,stands.limit]
  | remaining now k =>
    simp only [Ask.moment,Ask.key] at window
    simp only [serve,Limiter.answer,remainingRoom stands.sole,window,stands.limit]

variable [IsOrderedAddMonoid τ] [Moment.Exact τ]

theorem Stands.serveOwn (stands : Stands most length now key v l) {a : Ask τ} (later : now ≤ a.moment) (own : a.key = key) :
    Stands most length a.moment key (Limiter.answer most length v a).1 (l.serve a).1 := by
  subst own
  cases a with
  | remaining now k => exact stands.later later
  | allow now k =>
    obtain ⟨limit,lasting,sole⟩ := allowKept stands.sole now k
    refine ⟨limit.trans stands.limit,lasting.trans stands.lasting,sole,fun t after => ?_⟩
    have window : l.open? now k = _ := stands.window now later
    refine (allowOpen stands.sole after k k).trans ?_
    rw [if_pos rfl,stands.limit,stands.lasting]
    exact congrArg (fun o => (some (weigh most now k o).1).filter (Window.lasts length t)) window

theorem Stands.serveOther (stands : Stands most length now key v l) {a : Ask τ} (later : now ≤ a.moment)
    (other : a.key ≠ key) : Stands most length a.moment key v (l.serve a).1 := by
  cases a with
  | remaining now k => exact stands.later later
  | allow now k =>
    obtain ⟨limit,lasting,sole⟩ := allowKept stands.sole now k
    refine ⟨limit.trans stands.limit,lasting.trans stands.lasting,sole,fun t after => ?_⟩
    refine (allowOpen stands.sole after k key).trans ?_
    have other : key ≠ k := Ne.symm other
    rw [if_neg other]
    exact stands.window t (later.trans after)

theorem Stands.log (stands : Stands most length now key v l) {asks : List (Ask τ)} (ordered : Ordered now asks) :
    (l.log asks).filter (fun e => decide (e.1.key = key)) =
      alone most length v (asks.filter (fun a => decide (a.key = key))) := by
  induction asks generalizing now v l with
  | nil => rfl
  | cons a rest ih =>
    obtain ⟨first,ordered⟩ := List.pairwise_cons.mp ordered
    have later : now ≤ a.moment := first _ List.mem_cons_self
    by_cases own : a.key = key
    · have next := ih (stands.serveOwn later own) ordered
      simp only [Limiter.log,List.filter_cons,own,decide_true,if_true,alone,next,stands.answer later own]
    · have next := ih (stands.serveOther later own) ordered
      simp only [Limiter.log,List.filter_cons,own,decide_false,Bool.false_eq_true,if_false,next]

theorem Stands.granted (stands : Stands most length now key v l) {asks : List (Ask τ)} (ordered : Ordered now asks) :
    l.granted key asks = passes most length key v (called key asks) := by
  induction asks generalizing now v l with
  | nil => rfl
  | cons a rest ih =>
    obtain ⟨first,ordered⟩ := List.pairwise_cons.mp ordered
    have later : now ≤ a.moment := first _ List.mem_cons_self
    rw [Limiter.granted,Limiter.log]
    by_cases own : a.key = key
    · have next := ih (stands.serveOwn later own) ordered
      rw [stands.answer later own]
      cases a with
      | remaining now k =>
        rw [List.filterMap_cons_none rfl,calledNone rfl]
        exact next
      | allow now k =>
        have one : (Ask.allow now k).called key = some now := if_pos own
        have own : k = key := own
        subst own
        rw [calledOne one,passes]
        simp only [Limiter.answer] at next ⊢
        cases through : (weigh most now k (v.filter (Window.lasts length now))).2 with
        | true =>
          have passed : letThrough k (Ask.allow now k,.allowed true) = some now := one
          rw [List.filterMap_cons_some passed,if_pos rfl,← next,Limiter.granted]
        | false => rw [List.filterMap_cons_none rfl,if_neg Bool.false_ne_true,← next,Limiter.granted]
    · have next := ih (stands.serveOther later own) ordered
      have skipped (r : Response) : letThrough key (a,r) = none := by
        unfold letThrough
        split
        · rename_i same
          cases same
          exact Ask.calledOther own
        · rfl
      rw [List.filterMap_cons_none (skipped _),calledNone (Ask.calledOther own)]
      exact next

theorem Stands.after (stands : Stands most length now key v l) {asks : List (Ask τ)} (ordered : Ordered now asks)
    {t : τ} (reached : now ≤ t) (passed : ∀ a ∈ asks, a.moment ≤ t) :
    Stands most length t key (lastWindow most length key v (called key asks)) (l.after asks) := by
  induction asks generalizing now v l with
  | nil => exact stands.later reached
  | cons a rest ih =>
    obtain ⟨first,ordered⟩ := List.pairwise_cons.mp ordered
    obtain ⟨here,passed⟩ := List.forall_mem_cons.mp passed
    have later : now ≤ a.moment := first _ List.mem_cons_self
    rw [Limiter.after,List.foldl_cons]
    by_cases own : a.key = key
    · have next := ih (stands.serveOwn later own) ordered here passed
      cases a with
      | remaining now k => exact next
      | allow now k =>
        have one : (Ask.allow now k).called key = some now := if_pos own
        have own : k = key := own
        subst own
        rw [calledOne one]
        exact next
    · rw [calledNone (Ask.calledOther own)]
      exact ih (stands.serveOther later own) ordered here passed

theorem Stands.opens (stands : Stands most length now key v l) (lasting : 0 < length)
    (free : l.open? now key = none) : Opens l now key := by
  refine ⟨free,?_,?_⟩
  · rw [allowAdmits,free,weigh]
  · rw [allowOpen stands.sole (le_refl now),if_pos rfl,free,weigh,stands.lasting]
    exact lastingSome (lt_add_of_pos_right now lasting)

/-! ### From the start -/

theorem logAlone (most : Int) (length : τ) {asks : List (Ask τ)} (ordered : (asks.map Ask.moment).Pairwise (· ≤ ·))
    (key : String) : let fresh : Limiter τ := ⟨most,length,[]⟩
    (fresh.log asks).filter (fun e => decide (e.1.key = key)) = fresh.log (asks.filter (fun a => decide (a.key = key))) := by
  intro fresh
  obtain ⟨now,since⟩ := orderedSince ordered
  have stands : Stands most length now key none fresh := freshStands most length now key
  have sinceOwn : Ordered now (asks.filter (fun a => decide (a.key = key))) :=
    List.Pairwise.sublist ((List.filter_sublist.map _).cons_cons now) since
  have ownOnly : (fresh.log (asks.filter (fun a => decide (a.key = key)))).filter (fun e => decide (e.1.key = key)) =
      fresh.log (asks.filter (fun a => decide (a.key = key))) := by
    refine List.filter_eq_self.mpr fun e member => ?_
    have asked := List.mem_map_of_mem (f := (·.1)) member
    rw [logAsked] at asked
    exact (List.mem_filter.mp asked).2
  rw [stands.log since,← ownOnly,stands.log sinceOwn,List.filter_filter]
  simp only [Bool.and_self]

theorem windowKept {most : Int} {length : τ} (lasting : 0 < length) {before later : List (Ask τ)} {s : τ} {key : String}
    (ordered : ((before ++ .allow s key :: later).map Ask.moment).Pairwise (· ≤ ·))
    (free : (after ⟨most,length,[]⟩ before).open? s key = none) :
    let opened := ((after ⟨most,length,[]⟩ before).allow s key).1
    Opens (after ⟨most,length,[]⟩ before) s key ∧
    (opened.granted key later).filter (fun t => decide (t < s + length)) =
      ((called key later).filter (fun t => decide (t < s + length))).take (most - 1).toNat ∧
    ∀ mid u rest, later = mid ++ .allow u key :: rest → (∀ t ∈ called key mid, t < s + length) → s + length ≤ u →
      Opens (opened.after mid) u key := by
  intro opened
  obtain ⟨now,since⟩ := orderedSince ordered
  obtain ⟨early,first,reached,late⟩ := orderedApart since
  have stands := (freshStands most length now key).after early reached first
  have window := (stands.window s (le_refl s)).symm.trans free
  have own : Stands most length s key (some ⟨key,s,1⟩) opened := by
    have served := stands.serveOwn (a := .allow s key) (le_refl s) rfl
    simp only [answer,window,weigh] at served
    exact served
  refine ⟨stands.opens lasting free,?_,fun mid u rest split inside passed => ?_⟩
  · rw [own.granted late]
    exact passesTake ⟨key,s,1⟩ (calledOrdered key (List.pairwise_cons.mp late).2)
  · subst split
    obtain ⟨early,first,reached,-⟩ := orderedApart late
    have stands := own.after early reached first
    obtain ⟨w,kept,openedAt⟩ := lastWindowKept most key ⟨key,s,1⟩ inside
    rw [kept] at stands
    exact stands.opens lasting ((stands.window u (le_refl u)).trans (lastingNone (openedAt.symm ▸ passed)))

theorem grantedWithin {most : Int} (positive : 1 ≤ most) (length : τ) {asks : List (Ask τ)}
    (ordered : (asks.map Ask.moment).Pairwise (· ≤ ·)) (key : String) (start : τ) :
    let fresh : Limiter τ := ⟨most,length,[]⟩
    (((fresh.granted key asks).filter (fun t => decide (start ≤ t ∧ t < start + length))).length : Int) ≤ 2 * most - 1 ∧
    (((fresh.granted key asks).filter (fun t => decide (start < t ∧ t ≤ start + length))).length : Int) ≤ 2 * most - 1 := by
  intro fresh
  obtain ⟨now,since⟩ := orderedSince ordered
  have granted : fresh.granted key asks = _ := (freshStands most length now key).granted since
  rw [granted]
  exact ⟨passesWithin positive length key (calledOrdered key ordered) start,
    passesUpTo positive length key (calledOrdered key ordered) start⟩

/-- Under any key, answers come as if nobody asked under another. A request that finds no window of its key opens one:
of those that follow in its time the first few are let through, and the first one after its time opens the next window.
So no stretch of its length, with the first or with the last moment left out, sees more than twice as many, less one. -/
theorem windowsFollow {most : Int} (positive : 1 ≤ most) {length : τ} (lasting : 0 < length) {asks : List (Ask τ)}
    (ordered : (asks.map Ask.moment).Pairwise (· ≤ ·)) (key : String) :
    let fresh : Limiter τ := ⟨most,length,[]⟩
    (fresh.log asks).filter (fun e => decide (e.1.key = key)) = fresh.log (asks.filter (fun a => decide (a.key = key))) ∧
    (∀ before s later, asks = before ++ .allow s key :: later → (fresh.after before).open? s key = none →
      let opened := ((fresh.after before).allow s key).1
      let inside := (opened.granted key later).filter (fun t => decide (t < s + length))
      Opens (fresh.after before) s key ∧
      inside = ((called key later).filter (fun t => decide (t < s + length))).take (most - 1).toNat ∧
      (inside.length : Int) ≤ most - 1 ∧
      ∀ mid u rest, later = mid ++ .allow u key :: rest → (∀ t ∈ called key mid, t < s + length) → s + length ≤ u →
        Opens (opened.after mid) u key) ∧
    ∀ start : τ,
      (((fresh.granted key asks).filter (fun t => decide (start ≤ t ∧ t < start + length))).length : Int) ≤ 2 * most - 1 ∧
      (((fresh.granted key asks).filter (fun t => decide (start < t ∧ t ≤ start + length))).length : Int) ≤ 2 * most - 1 := by
  intro fresh
  refine ⟨logAlone most length ordered key,fun before s later split free => ?_,grantedWithin positive length ordered key⟩
  subst split
  obtain ⟨opens,first,next⟩ := windowKept lasting ordered free
  refine ⟨opens,first,?_,next⟩
  have few := List.length_take_le (most - 1).toNat ((called key later).filter (fun t => decide (t < s + length)))
  rw [first]
  omega

theorem windowsMeet :
    let fresh : Limiter Int := ⟨2,10,[]⟩
    let mid : List (Ask Int) := [.allow 3 "b",.remaining 5 "a",.allow 9 "a",.allow 9 "a"]
    let rest : List (Ask Int) := [.allow 11 "a",.allow 11 "a",.allow 12 "b"]
    let asks := .allow 0 "a" :: (mid ++ .allow 10 "a" :: rest)
    fresh.granted "a" asks = [0,9,10,11] ∧
    (fresh.log asks).filter (fun e => decide (e.1.key = "a")) = fresh.log (asks.filter (fun a => decide (a.key = "a"))) ∧
    Opens fresh 0 "a" ∧ Opens ((fresh.allow 0 "a").1.after mid) 10 "a" ∧
    (((fresh.granted "a" asks).filter (fun t => decide (9 ≤ t ∧ t < 9 + 10))).length : Int) ≤ 3 := by
  intro fresh mid rest asks
  have ordered : (asks.map Ask.moment).Pairwise (· ≤ ·) := by decide
  have positive : (1 : Int) ≤ 2 := by decide
  have lasting : (0 : Int) < 10 := by decide
  obtain ⟨alone,follow,within⟩ := windowsFollow positive lasting ordered "a"
  obtain ⟨opens,-,-,next⟩ := follow [] 0 (mid ++ .allow 10 "a" :: rest) rfl rfl
  exact ⟨by decide,alone,opens,next mid 10 rest rfl (by decide) (by decide),(within 9).1⟩

end

end FormBuilder.Limiter
