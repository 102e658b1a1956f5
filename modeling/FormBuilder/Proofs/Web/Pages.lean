import FormBuilder.Proofs.Checked
import FormBuilder.Proofs.Dumped
import FormBuilder.Web.App
import Mathlib.Data.List.Basic
/-! Pages of submissions. The pages of a form, one after the other, are all of its submissions, the newest first; what a
reply says about the pages before and after its own is so; and a page beyond the last one is empty. -/
namespace FormBuilder
open Store (pageSize)

namespace Store

def newest (s : Store) (form : Int) : List Submission := (s.submissionsOf form).mergeSort Submission.newerFirst

def onPage (all : List Submission) (page : Nat) : List Submission := (all.drop ((page - 1) * pageSize)).take pageSize

def pageCount (total : Nat) : Nat := max 1 ((total + pageSize - 1) / pageSize)

theorem newestWhole (s : Store) (form : Int) : (s.newest form).Perm (s.submissionsOf form) := List.mergeSort_perm _ _

theorem newestOrdered (s : Store) (form : Int) : (s.newest form).Pairwise fun a b =>
    b.submittedAt < a.submittedAt ∨ a.submittedAt = b.submittedAt ∧ b.id ≤ a.id := by
  have exact (a b : Submission) : Submission.newerFirst a b = true ↔
      b.submittedAt < a.submittedAt ∨ a.submittedAt = b.submittedAt ∧ b.id ≤ a.id := by
    simp [Submission.newerFirst]
  have trans (a b c : Submission) (first : Submission.newerFirst a b = true) (later : Submission.newerFirst b c = true) :
      Submission.newerFirst a c = true := by
    rw [exact] at first later ⊢
    omega
  have total (a b : Submission) : (Submission.newerFirst a b || Submission.newerFirst b a) = true := by
    rw [Bool.or_eq_true,exact,exact]
    omega
  exact (List.pairwise_mergeSort trans total _).imp fun {a b} before => (exact a b).mp before

theorem pagesJoined (all : List Submission) (count : Nat) :
    (List.range count).flatMap (fun i => onPage all (i + 1)) = all.take (count * pageSize) := by
  induction count with
  | zero => simp
  | succ count ih =>
    rw [List.range_succ,List.flatMap_append,ih,Nat.succ_mul,List.take_add]
    simp [onPage]

theorem pageCountReaches (total : Nat) : total ≤ pageCount total * pageSize := by
  simp only [pageCount,pageSize]
  omega

theorem onPageLength (all : List Submission) (page : Nat) :
    (onPage all page).length = min pageSize (all.length - (page - 1) * pageSize) := by
  rw [onPage,List.length_take,List.length_drop]

theorem pagesWhole (all : List Submission) :
    (List.range (pageCount all.length)).flatMap (fun i => onPage all (i + 1)) = all := by
  rw [pagesJoined,List.take_of_length_le (pageCountReaches all.length)]

theorem pageFull {all : List Submission} {page : Nat} (there : 1 ≤ page) (early : page < pageCount all.length) :
    (onPage all page).length = pageSize := by
  simp only [pageCount,pageSize] at early
  simp only [onPageLength,pageSize]
  omega

theorem pageFollows (all : List Submission) (page : Nat) (there : 1 ≤ page) :
    page < pageCount all.length ↔ onPage all (page + 1) ≠ [] := by
  rw [← List.length_pos_iff,onPageLength]
  simp only [pageCount,pageSize]
  omega

theorem pageBeyond {all : List Submission} {page : Nat} (beyond : pageCount all.length < page) :
    onPage all page = [] := by
  have length := onPageLength all page
  simp only [pageCount,pageSize] at beyond
  simp only [pageSize] at length
  exact List.length_eq_zero_iff.mp (by omega)

end Store

namespace Web
open Store (newest onPage pageCount)

def Request.pageNumber (r : Request) : Checked Int :=
  match r.query? "page" with
  | none => .ok 1
  | some text => Scalar.intOfText text

structure Sheet where
  submissions : List Submission
  page : Int
  pages : Nat
  total : Nat
  newer : Bool
  older : Bool

namespace Sheet

def of (all : List Submission) (number : Int) : Sheet :=
  let page := (max number 1).toNat
  { submissions := onPage all page
    page := page
    pages := pageCount all.length
    total := all.length
    newer := decide (1 < page)
    older := !(onPage all (page + 1)).isEmpty }

def body (entries : List Value) (s : Sheet) : Value :=
  .object [("submissions",.list (entries.map Value.dumped)),("page",.int s.page),("total_pages",.ofNat s.pages),
    ("total",.ofNat s.total),("has_prev",.bool s.newer),("has_next",.bool s.older)]

def reply (ahead : Int → Int) (s : Sheet) : Reply :=
  ((s.submissions.mapM (App.submissionEntry ahead)).map fun entries => Reply.content 200 (s.body entries)).getD .failure

end Sheet

namespace App

theorem listedOnPage (s : Store) (form number : Int) :
    s.listSubmissions form (max number 1) pageSize = onPage (s.newest form) (max number 1).toNat := by
  have start : ((max (max number 1) 1 - 1) * (pageSize : Int)).toNat = ((max number 1).toNat - 1) * pageSize := by
    simp only [pageSize]
    omega
  simp only [Store.listSubmissions,start]
  rfl

theorem pageShown (all : List Submission) (number : Int) (entries : List Value) :
    (submissionPage (max number 1) all.length entries).dumped = (Sheet.of all number).body entries := by
  have page : ((max number 1).toNat : Int) = max number 1 := by omega
  have pages : max 1 (((all.length : Int) + (pageSize : Nat) - 1) / (pageSize : Nat)) = (pageCount all.length : Nat) := by
    simp only [pageCount,pageSize]
    omega
  have older : decide (max number 1 < (pageCount all.length : Int)) =
      !(onPage all ((max number 1).toNat + 1)).isEmpty := by
    have follows := Store.pageFollows all (max number 1).toNat (by omega)
    rw [Bool.eq_iff_iff,decide_eq_true_iff,Bool.not_eq_true',← Bool.not_eq_true,List.isEmpty_iff]
    exact Iff.trans (by omega) follows
  have newer : decide (1 < (max number 1).toNat) = decide (1 < max number 1) := decide_eq_decide.mpr (by omega)
  simp only [submissionPage,pages,older,Value.dumped,Value.dumpedEntries,Value.dumpedItemsMap,Sheet.of,Sheet.body,page,
    newer,Value.ofNat]

theorem pageRead {r : Request} {number : Int} (asked : r.pageNumber = .ok number) : page r = .ok (max number 1) := by
  cases found : r.query? "page" with
  | none =>
    simp only [Request.pageNumber,found,Except.ok.injEq] at asked
    simp only [page,found,← asked,Int.max_self]
  | some text =>
    simp only [Request.pageNumber,found] at asked
    simp only [page,found,Checked.underOk.mpr (Checked.underOk.mpr asked)]
    rfl

theorem listSubmissionsShown {a : App} {owner : String} {form : Int} {f : Form}
    (found : a.service.owned owner form = .ok f) {r : Request} {ahead : Int → Int} (clocks : a.clocks r = .ok ahead)
    (number : Int) : a.listSubmissions owner form (max number 1) r =
      if Store.pageFits number pageSize then (Sheet.of (a.service.store.newest form) number).reply ahead
      else .failure := by
  have same : Store.pageFits (max number 1) pageSize = Store.pageFits number pageSize := by
    rw [Store.pageFits,Store.pageFits,Int.max_assoc,Int.max_self]
  have total : a.service.store.countSubmissions form = (a.service.store.newest form).length :=
    (Store.newestWhole _ form).length_eq.symm
  simp only [listSubmissions,clocks,Service.listSubmissions,found,same]
  cases fits : Store.pageFits number pageSize with
  | false => rfl
  | true =>
    simp only [Bool.not_true,if_false,Bool.false_eq_true,if_true,listedOnPage,total,pageShown]
    rfl

theorem pageAnswered {a : App} {owner id : String} {form : Int} {f : Form} (named : formId id = .ok form)
    (found : a.service.owned owner form = .ok f) {r : Request} {ahead : Int → Int} {number : Int}
    (key : a.config.owner? (r.header? "x-api-key") = some owner) (clocks : a.clocks r = .ok ahead)
    (asked : r.pageNumber = .ok number) (given : Value) : a.answer r given (.listSubmissions id) =
      (a,if Store.pageFits number pageSize then (Sheet.of (a.service.store.newest form) number).reply ahead
        else .failure) := by
  simp only [answer,Route.isManaged,if_true,key,manage,checked,named,pageRead asked,Checked.both]
  rw [listSubmissionsShown found clocks number]

/-- For every form that its owner finds: whatever page is asked for, the reply shows the submissions on that page and
says how many pages and submissions there are, and whether any are on a page before and after it. It fails only if the
place of the page is too large a number for the store, or if a moment cannot be shown. The pages are the submissions of
the form, each one once and the newest first; all but the last one are full, and nothing is on a page beyond it. -/
theorem submissionsPaged {a : App} {owner id : String} {form : Int} {f : Form} (named : formId id = .ok form)
    (found : a.service.owned owner form = .ok f) :
    let all := a.service.store.newest form
    let last := pageCount all.length
    (∀ r given ahead number, a.config.owner? (r.header? "x-api-key") = some owner → a.clocks r = .ok ahead →
      r.pageNumber = .ok number →
      a.answer r given (.listSubmissions id) =
        (a,if Store.pageFits number pageSize then (Sheet.of all number).reply ahead else .failure)) ∧
    (∀ number < 1, Sheet.of all number = Sheet.of all 1) ∧
    all.Perm (a.service.store.submissionsOf form) ∧
    (all.Pairwise fun s t => t.submittedAt < s.submittedAt ∨ s.submittedAt = t.submittedAt ∧ t.id ≤ s.id) ∧
    (List.range last).flatMap (fun i => (Sheet.of all (i + 1 : Nat)).submissions) = all ∧
    (∀ page : Nat, 1 ≤ page → page < last → (Sheet.of all page).submissions.length = pageSize) ∧
    (∀ page : Nat, last < page → (Sheet.of all page).submissions = []) ∧
    (∀ page : Nat, 1 ≤ page →
      ((Sheet.of all page).older = true ↔ (Sheet.of all (page + 1 : Nat)).submissions ≠ []) ∧
      ((Sheet.of all page).newer = true ↔ 1 < page) ∧ (Sheet.of all page).page = page) ∧
    ∀ number, (Sheet.of all number).pages = last ∧
      (Sheet.of all number).total = (a.service.store.submissionsOf form).length := by
  intro all last
  have whole : all.Perm (a.service.store.submissionsOf form) := Store.newestWhole _ form
  have counted (page : Nat) (there : 1 ≤ page) : (max (page : Int) 1).toNat = page := by omega
  refine ⟨fun r given ahead number key clocks asked => pageAnswered named found key clocks asked given,
    fun number below => ?_,whole,Store.newestOrdered _ form,?_,fun page there early => ?_,fun page beyond => ?_,
    fun page there => ⟨?_,?_,?_⟩,fun number => ⟨rfl,whole.length_eq⟩⟩
  · simp only [Sheet.of,Int.max_eq_right (Int.le_of_lt below),Int.max_self]
  · simp only [Sheet.of,counted _ (Nat.le_add_left 1 _)]
    exact Store.pagesWhole all
  · simp only [Sheet.of,counted page there]
    exact Store.pageFull there early
  · have there : 1 ≤ page := Nat.le_trans (Nat.le_max_left 1 _) (Nat.le_of_lt beyond)
    simp only [Sheet.of,counted page there]
    exact Store.pageBeyond beyond
  · simp only [Sheet.of,counted page there,counted (page + 1) (Nat.le_add_left 1 _)]
    simp
  · simp only [Sheet.of,counted page there,decide_eq_true_iff]
  · simp only [Sheet.of,counted page there]

def listing (count : Nat) : App :=
  ⟨{ Config.default with apiKeys := [("key","alice")] },⟨⟨[⟨1,"alice","A","a",none,.draft,[],0,0⟩],[],
    (List.range count).map fun i => ⟨i + 1,1,i,[]⟩,false,32766⟩,none,.atSeconds 0,[]⟩⟩

def pageRequest (page : String) : Request :=
  ⟨"GET","/api/v1/forms/1/submissions",[("page",page)],[("x-api-key","key")],none,none⟩

theorem pageRequestKey (page : String) (count : Nat) :
    (listing count).config.owner? ((pageRequest page).header? "x-api-key") = some "alice" := by
  have key : (pageRequest page).header? "x-api-key" = some "key" := by simp [Request.header?,pageRequest]
  rw [key]
  rfl

theorem listingFound (count : Nat) : ∃ f, (listing count).service.owned "alice" 1 = .ok f :=
  passed (by decide +kernel : ((listing 0).service.owned "alice" 1).toOption.isSome = true)

theorem farPageFails :
    (listing 0).answer (pageRequest "1000000000000000000") .null (.listSubmissions "1") = (listing 0,.failure) ∧
    (Sheet.of [⟨1,1,253402300799,[]⟩] 1).submissions.map (·.id) = [1] ∧
    ((Sheet.of [⟨1,1,253402300799,[]⟩] 1).reply fun _ => 0).status = 200 ∧
    ((Sheet.of [⟨1,1,253402300799,[]⟩] 1).reply fun _ => 32400).status = 500 := by
  obtain ⟨f,found⟩ := listingFound 0
  have asked : (pageRequest "1000000000000000000").pageNumber = .ok 1000000000000000000 := by decide +kernel
  exact ⟨pageAnswered (by decide +kernel : formId "1" = .ok 1) found (pageRequestKey _ 0) rfl asked .null,
    by decide +kernel,by decide +kernel,by decide +kernel⟩

theorem lastPageShown :
    let all := (listing 51).service.store.newest 1
    (listing 51).answer (pageRequest "2") .null (.listSubmissions "1") =
      (listing 51,(Sheet.of all 2).reply Config.default.zone.offset) ∧
    (Sheet.of all 1).submissions.length = 50 ∧ (Sheet.of all 2).submissions.length = 1 ∧
    (Sheet.of all 3).submissions = [] ∧ (Sheet.of all 2).newer = true := by
  intro all
  obtain ⟨f,found⟩ := listingFound 51
  have count : all.length = 51 := (Store.newestWhole _ 1).length_eq.trans (by decide +kernel)
  have pages : pageCount all.length = 2 := by rw [count]; rfl
  have asked : (pageRequest "2").pageNumber = .ok 2 := by decide +kernel
  obtain ⟨answered,-,-,-,-,full,beyond,neighbours,-⟩ := submissionsPaged (by decide +kernel : formId "1" = .ok 1) found
  refine ⟨answered _ .null _ 2 (pageRequestKey _ 51) rfl asked,full 1 (by decide) (by rw [pages]; decide),?_,
    beyond 3 (by rw [pages]; decide),(neighbours 2 (by decide)).2.1.mpr (by decide)⟩
  exact (Store.onPageLength all 2).trans (by rw [count]; rfl)

end App
end Web
end FormBuilder
