import Mathlib.Data.List.Dedup
import Mathlib.Data.List.Infix
import Mathlib.Data.List.Perm.Subperm
import OutOfBand.Proofs.Operation.Transcript
import OutOfBand.Proofs.Session.Replies

/-! # Walking through a listing

The list of all jobs comes in pages, and each page may name the next. The links are followed one by one as they stand
in the pages, none of them twice, until a page leads nowhere new or is not answered. A page that is redirected is the
one that came back in the end. What is told at the end are the
jobs of all pages in their order; where a page is missing, none of them is told. The bound on the links that are
followed never ends a walk, as the device has no more answers than that.
-/
namespace OutOfBand

open Http Session

variable {α : Type}

theorem Text.occursIn_iff (needle hay : List Char) : occursIn needle hay = true ↔ needle <:+: hay := by
  induction hay with
  | nil => simp [occursIn]
  | cons c rest ih => rw [occursIn, Bool.or_eq_true, List.isPrefixOf_iff_prefix, ih, List.infix_cons_iff]

namespace Exchange

/-- The page that came back. -/
def page? (e : Exchange) : Option Json :=
  match e.reply with
  | .ok reply => if reply.isSuccess then some reply.body else none
  | .error _ => none

/-- What is handed on of a reply without a successful status. -/
def refusal? (e : Exchange) : Option Json :=
  match e.reply with
  | .ok reply => if reply.isSuccess then none else some reply.failureBody
  | .error _ => none

theorem page?_isSome (e : Exchange) : e.page?.isSome = e.isAnswered := by
  unfold page? isAnswered isAnsweredWell
  cases e.reply with
  | error _ => rfl
  | ok reply =>
    cases hsuccess : reply.isSuccess with
    | true => simp [Except.toOption, hsuccess]
    | false => simp [Except.toOption, hsuccess]

theorem isAnswered_of_page? {e : Exchange} {page : Json} (h : e.page? = some page) : e.isAnswered = true := by
  rw [← page?_isSome, h]
  rfl

theorem refusal?_of_isAnswered {e : Exchange} (h : e.isAnswered = true) : e.refusal? = none := by
  unfold isAnswered isAnsweredWell at h
  unfold refusal?
  cases hreply : e.reply with
  | error _ => rfl
  | ok reply =>
    rw [hreply] at h
    exact if_pos h

end Exchange

namespace Operation

/-! ## Pages and jobs -/

def pagesOf (exchanges : List Exchange) : List Json := exchanges.filterMap Exchange.page?

/-- The link to the next page: the text that the page has under that name. -/
def namedLink? : Json → Option String
  | .object members =>
    match Fields.get? members "@odata.nextLink" with
    | some (.string link) => some link
    | _ => none
  | _ => none

/-- A job as it is listed: no member of it has an annotation for its name. -/
def withoutAnnotations : Json → Json
  | .object members => .object (members.filter (fun member => ¬ "@odata.".toList <:+: member.1.toList))
  | item => item

/-- The jobs of some pages, in their order. -/
def listedJobs (pages : List Json) : List Json :=
  pages.flatMap (fun page => ((page.itemsMember? "value").getD []).map withoutAnnotations)

/-- The collection of the jobs of some pages, in the context of the first. -/
def listingOf (pages : List Json) : Json :=
  .ofEntries [("@odata.context", (pages.head?.bind (·.member? "@odata.context")).getD .null),
    ("@odata.count", .ofNat (listedJobs pages).length), ("value", .array (listedJobs pages))]

theorem nextLink?_eq (page : Json) : nextLink? page = namedLink? page := by
  cases page with
  | object members =>
    simp only [nextLink?, namedLink?, Json.textMember?, Json.member?]
    cases Fields.get? members "@odata.nextLink" with
    | none => rfl
    | some value =>
      cases value with
      | _ => rfl
  | _ => rfl

theorem stripJob_eq (item : Json) : stripJob item = withoutAnnotations item := by
  cases item with
  | object members =>
    have hkept : ∀ member : String × Json,
        (!isAnnotated member.1) = decide (¬ "@odata.".toList <:+: member.1.toList) := by
      intro member
      rw [isAnnotated, Text.contains, decide_not]
      congr 1
      rw [Bool.eq_iff_iff, Text.occursIn_iff, decide_eq_true_eq]
    simp only [stripJob, withoutAnnotations, stripAnnotations, hkept]
  | _ => rfl

theorem listedJobs_cons (page : Json) (pages : List Json) : listedJobs (page :: pages) = pageJobs page ++ listedJobs pages := by
  have hstrip : stripJob = withoutAnnotations := funext stripJob_eq
  rw [listedJobs, List.flatMap_cons, pageJobs, hstrip]
  rfl

theorem pagesOf_cons {e : Exchange} {page : Json} (h : e.page? = some page) (rest : List Exchange) :
    pagesOf (e :: rest) = page :: pagesOf rest :=
  List.filterMap_cons_some h

/-! ## Walks -/

/-- The requests of a walk: the collection itself, then the link of one page after the other, none of them twice. Only
the last may not be answered, and a walk without trouble ends at a page that leads nowhere new. -/
structure IsWalk (exchanges : List Exchange) (links : List String) : Prop where
  specs : exchanges.map Exchange.spec = (jobsPath :: links).map RequestSpec.get
  answered : ∀ e ∈ exchanges.dropLast, e.isAnswered = true
  named : links.map some = ((pagesOf exchanges).take links.length).map namedLink?
  nodup : links.Nodup
  stops : (∀ e ∈ exchanges, e.isAnswered = true) →
    ∀ last ∈ (pagesOf exchanges).getLast?, ∀ link, namedLink? last = some link → link ∈ links

/-- The part of a walk behind a page. The links that were followed to get there are not followed again. -/
structure FollowsLinks (seen : List String) (page : Json) (rest : List Exchange) (links : List String) : Prop where
  specs : rest.map Exchange.spec = links.map RequestSpec.get
  answered : ∀ e ∈ rest.dropLast, e.isAnswered = true
  named : links.map some = ((page :: pagesOf rest).take links.length).map namedLink?
  nodup : links.Nodup
  fresh : ∀ link ∈ links, link ∉ seen
  stops : (∀ e ∈ rest, e.isAnswered = true) →
    ∀ last ∈ (page :: pagesOf rest).getLast?, ∀ link, namedLink? last = some link → link ∈ seen ∨ link ∈ links

variable {seen links : List String} {page other : Json} {e : Exchange} {rest exchanges : List Exchange} {link : String}

theorem answered_cons (he : e.isAnswered = true) (h : ∀ x ∈ rest.dropLast, x.isAnswered = true) :
    ∀ x ∈ (e :: rest).dropLast, x.isAnswered = true := by
  intro x hx
  cases rest with
  | nil => cases hx
  | cons second rest =>
    rcases List.mem_cons.mp hx with rfl | hx
    · exact he
    · exact h x hx

theorem FollowsLinks.stop (h : ∀ link, namedLink? page = some link → link ∈ seen) : FollowsLinks seen page [] [] := by
  refine ⟨rfl, by simp, rfl, List.nodup_nil, by simp, fun _ last hlast link hlink => Or.inl ?_⟩
  obtain rfl : page = last := by simpa [pagesOf] using hlast
  exact h link hlink

theorem FollowsLinks.trouble (hlink : namedLink? page = some link) (hnew : link ∉ seen) (hspec : e.spec = .get link)
    (hlost : e.isAnswered = false) : FollowsLinks seen page [e] [link] := by
  refine ⟨by simp [hspec], by simp, by simp [hlink], List.nodup_singleton link, by simpa using hnew, fun hall => ?_⟩
  have hanswered := hall e (List.mem_singleton_self e)
  rw [hlost] at hanswered
  cases hanswered

theorem FollowsLinks.step (hlink : namedLink? page = some link) (hnew : link ∉ seen) (hspec : e.spec = .get link)
    (hpage : e.page? = some other) (h : FollowsLinks (link :: seen) other rest links) :
    FollowsLinks seen page (e :: rest) (link :: links) := by
  refine ⟨?_, ?_, ?_, ?_, ?_, ?_⟩
  · simp only [List.map_cons, h.specs, hspec]
  · exact answered_cons (e.isAnswered_of_page? hpage) h.answered
  · simp only [List.map_cons, List.length_cons, List.take_succ_cons, hlink, pagesOf_cons hpage, h.named]
  · refine List.nodup_cons.mpr ⟨fun hagain => ?_, h.nodup⟩
    exact h.fresh link hagain List.mem_cons_self
  · intro later hlater
    rcases List.mem_cons.mp hlater with rfl | hlater
    · exact hnew
    · exact fun hseen => h.fresh later hlater (List.mem_cons_of_mem _ hseen)
  · intro hall last hlast later hnext
    rw [pagesOf_cons hpage, List.getLast?_cons_cons] at hlast
    rcases h.stops (fun e he => hall e (List.mem_cons_of_mem _ he)) last hlast later hnext with hseen | hfollowed
    · rcases List.mem_cons.mp hseen with rfl | hseen
      · exact Or.inr List.mem_cons_self
      · exact Or.inl hseen
    · exact Or.inr (List.mem_cons_of_mem _ hfollowed)

theorem FollowsLinks.isWalk (hspec : e.spec = .get jobsPath) (hpage : e.page? = some page)
    (h : FollowsLinks [] page rest links) : IsWalk (e :: rest) links := by
  refine ⟨?_, answered_cons (e.isAnswered_of_page? hpage) h.answered, ?_, h.nodup, fun hall last hlast => ?_⟩
  · simp only [List.map_cons, h.specs, hspec]
  · rw [pagesOf_cons hpage, h.named]
  · rw [pagesOf_cons hpage] at hlast
    intro link hnext
    rcases h.stops (fun e he => hall e (List.mem_cons_of_mem _ he)) last hlast link hnext with hseen | hfollowed
    · cases hseen
    · exact hfollowed

theorem isWalk_of_trouble (hspec : e.spec = .get jobsPath) (hlost : e.isAnswered = false) : IsWalk [e] [] := by
  refine ⟨by simp [hspec], by simp, by simp, List.nodup_nil, fun hall => ?_⟩
  have hanswered := hall e (List.mem_singleton_self e)
  rw [hlost] at hanswered
  cases hanswered

/-- The links that some pages name, each of them once. -/
def distinctLinks (pages : List Json) : List String := (pages.filterMap namedLink?).dedup

theorem IsWalk.length_le (h : IsWalk exchanges links) : exchanges.length ≤ (distinctLinks (pagesOf exchanges)).length + 1 := by
  have hlength : exchanges.length = links.length + 1 := by
    have hboth := congrArg List.length h.specs
    simpa using hboth
  have hnamed : links ⊆ distinctLinks (pagesOf exchanges) := by
    intro link hlink
    have hsome : some link ∈ ((pagesOf exchanges).take links.length).map namedLink? := by
      rw [← h.named]
      exact List.mem_map_of_mem hlink
    obtain ⟨page, hpage, hnext⟩ := List.mem_map.mp hsome
    exact List.mem_dedup.mpr (List.mem_filterMap.mpr ⟨page, List.mem_of_mem_take hpage, hnext⟩)
  have hle := (List.subperm_of_subset h.nodup hnamed).length_le
  omega

/-! ## What a listing hears -/

/-- The task ends in the value if it is complete. Otherwise it fails, and hands on no more than what the last reply
has refused with. -/
inductive EndsIn (complete : Prop) (value : α) (exchanges : List Exchange) : Except Failure α → Prop
  | value (h : complete) : EndsIn complete value exchanges (.ok value)
  | failure {f : Failure} (h : ¬ complete)
      (hf : (Report.ofFailure f).get? "job_info" = exchanges.getLast?.bind Exchange.refusal?) :
      EndsIn complete value exchanges (.error f)

theorem get?_ofSessionError (e : SessionError) : (Report.ofFailure (.ofSessionError e)).get? "job_info" = none := by
  cases e with
  | transport loss =>
    cases loss with
    | _ => rfl
  | _ => rfl

theorem requireStatus_ok {reply : Envelope} {u : Unit}
    (h : (Acceptance.httpStatus.require reply).mapError (Task.rekey "job_info") = .ok u) : reply.isSuccess = true := by
  cases hsuccess : reply.isSuccess with
  | true => rfl
  | false =>
    rw [Task.require_of_refusal hsuccess] at h
    cases h

theorem requireStatus_error {reply : Envelope} {f : Failure}
    (h : (Acceptance.httpStatus.require reply).mapError (Task.rekey "job_info") = .error f) :
    reply.isSuccess = false ∧ (Report.ofFailure f).get? "job_info" = some reply.failureBody := by
  cases hsuccess : reply.isSuccess with
  | true =>
    rw [Task.require_of_success hsuccess] at h
    cases h
  | false =>
    rw [Task.require_of_refusal hsuccess] at h
    cases h
    exact ⟨rfl, rfl⟩

/-- Fetching is one exchange. It gives the page that came back, or fails. -/
theorem fetch_hears {spec : RequestSpec} {result : Except Failure Json} (h : Task.Hears (fetch spec) exchanges result) :
    ∃ e : Exchange, exchanges = [e] ∧ e.spec = spec ∧
      match result with
      | .ok page => e.page? = some page
      | .error f => e.isAnswered = false ∧ (Report.ofFailure f).get? "job_info" = e.refusal? := by
  unfold fetch at h
  rcases Task.hears_send_bind h with ⟨err, rfl, rfl⟩ | ⟨reply, rest, rfl, hrest⟩
  · exact ⟨_, rfl, rfl, rfl, get?_ofSessionError err⟩
  · rcases Task.hears_ofExcept_bind hrest with ⟨f, hrefused, rfl, rfl⟩ | ⟨_, haccepted, hdone⟩
    · obtain ⟨hstatus, htold⟩ := requireStatus_error hrefused
      have hrefusal : Exchange.refusal? ⟨spec, .ok reply⟩ = some reply.failureBody := by
        simp only [Exchange.refusal?, hstatus, Bool.false_eq_true, ↓reduceIte]
      exact ⟨_, rfl, rfl, hstatus, htold.trans hrefusal.symm⟩
    · obtain ⟨rfl, rfl⟩ := Task.hears_pure hdone
      exact ⟨_, rfl, rfl, if_pos (requireStatus_ok haccepted)⟩

theorem fetch_bind_hears {spec : RequestSpec} {k : Json → Task α} {result : Except Failure α}
    (h : Task.Hears (fetch spec >>= k) exchanges result) :
    (∃ e f, exchanges = [e] ∧ e.spec = spec ∧ e.isAnswered = false ∧ result = .error f ∧
      (Report.ofFailure f).get? "job_info" = e.refusal?) ∨
      ∃ e page rest, exchanges = e :: rest ∧ e.spec = spec ∧ e.page? = some page ∧ Task.Hears (k page) rest result := by
  rcases Task.hears_bind h with ⟨f, hfailed, rfl⟩ | ⟨front, page, rest, rfl, hfetched, hrest⟩
  · obtain ⟨e, rfl, hspec, hlost, htold⟩ := fetch_hears hfailed
    exact Or.inl ⟨e, f, rfl, hspec, hlost, rfl, htold⟩
  · obtain ⟨e, rfl, hspec, hpage⟩ := fetch_hears hfetched
    exact Or.inr ⟨e, page, rest, rfl, hspec, hpage, hrest⟩

theorem EndsIn.of_trouble {complete : Prop} {value : α} {f : Failure} (hcomplete : complete → e.isAnswered = true)
    (hlost : e.isAnswered = false) (hf : (Report.ofFailure f).get? "job_info" = e.refusal?) :
    EndsIn complete value [e] (.error f) := by
  refine .failure (fun h => ?_) hf
  rw [hcomplete h] at hlost
  cases hlost

theorem refusal?_of_all_answered (h : ∀ e ∈ exchanges, e.isAnswered = true) :
    exchanges.getLast?.bind Exchange.refusal? = none := by
  cases hlast : exchanges.getLast? with
  | none => rfl
  | some e => exact Exchange.refusal?_of_isAnswered (h e (List.mem_of_getLast? hlast))

/-- An answer in front of the exchanges changes nothing about how they end. -/
theorem EndsIn.behind {complete : Prop} {value : α} {result : Except Failure α} (he : e.isAnswered = true)
    (h : EndsIn complete value rest result) : EndsIn complete value (e :: rest) result := by
  have hlast : (e :: rest).getLast?.bind Exchange.refusal? = rest.getLast?.bind Exchange.refusal? := by
    cases rest with
    | nil => exact Exchange.refusal?_of_isAnswered he
    | cons second rest => rw [List.getLast?_cons_cons]
  cases h with
  | value h => exact .value h
  | failure h hf => exact .failure h (hf.trans hlast.symm)

/-- A walk from a page on, that ends in the jobs so far and those of all its pages. -/
def Collects (jobs : List Json) (seen : List String) (page : Json) (exchanges : List Exchange)
    (result : Except Failure (List Json)) : Prop :=
  ∃ links, FollowsLinks seen page exchanges links ∧
    EndsIn (∀ e ∈ exchanges, e.isAnswered = true) (jobs ++ listedJobs (page :: pagesOf exchanges)) exchanges result

theorem Collects.stop {jobs : List Json} {result : Except Failure (List Json)}
    (h : Task.Hears (pure (jobs ++ pageJobs page)) exchanges result)
    (hnowhere : ∀ link, namedLink? page = some link → link ∈ seen) : Collects jobs seen page exchanges result := by
  obtain ⟨rfl, rfl⟩ := Task.hears_pure h
  have hjobs : jobs ++ pageJobs page = jobs ++ listedJobs (page :: pagesOf []) := by
    rw [listedJobs_cons]
    simp [listedJobs, pagesOf]
  refine ⟨[], .stop hnowhere, ?_⟩
  rw [hjobs]
  exact .value (by simp)

theorem Collects.step {jobs : List Json} {result : Except Failure (List Json)} (hlink : namedLink? page = some link)
    (hnew : link ∉ seen) (hspec : e.spec = .get link) (hpage : e.page? = some other)
    (h : Collects (jobs ++ pageJobs page) (link :: seen) other rest result) :
    Collects jobs seen page (e :: rest) result := by
  obtain ⟨links, hfollows, hends⟩ := h
  have hanswered := e.isAnswered_of_page? hpage
  have hall : (∀ x ∈ e :: rest, x.isAnswered = true) ↔ ∀ x ∈ rest, x.isAnswered = true := by
    simp [hanswered]
  have hjobs : jobs ++ listedJobs (page :: pagesOf (e :: rest)) =
      jobs ++ pageJobs page ++ listedJobs (other :: pagesOf rest) := by
    rw [pagesOf_cons hpage, listedJobs_cons page, List.append_assoc]
  refine ⟨link :: links, .step hlink hnew hspec hpage hfollows, ?_⟩
  rw [hall, hjobs]
  exact hends.behind hanswered

/-- The collecting of pages is a walk from the first one on, as long as no more is answered than the bound allows. -/
theorem collect_hears (budget : Nat) {jobs : List Json} {result : Except Failure (List Json)}
    (h : Task.Hears (collect jobs seen page budget) exchanges result)
    (hbudget : exchanges.countP Exchange.isAnswered < budget) : Collects jobs seen page exchanges result := by
  induction budget generalizing jobs seen page exchanges result with
  | zero => exact absurd hbudget (Nat.not_lt_zero _)
  | succ budget ih =>
    unfold collect at h
    rw [nextLink?_eq] at h
    cases hnext : namedLink? page with
    | none =>
      simp only [hnext] at h
      exact .stop h (by simp [hnext])
    | some link =>
      simp only [hnext] at h
      by_cases hseen : link ∈ seen
      · rw [if_pos (by simpa using hseen)] at h
        refine .stop h (fun later hlater => ?_)
        obtain rfl : link = later := Option.some.inj (hnext.symm.trans hlater)
        exact hseen
      · rw [if_neg (by simpa using hseen)] at h
        rcases fetch_bind_hears h with ⟨e, f, rfl, hspec, hlost, rfl, htold⟩ | ⟨e, other, rest, rfl, hspec, hpage, hrest⟩
        · exact ⟨[link], .trouble hnext hseen hspec hlost,
            .of_trouble (fun hall => hall e (List.mem_singleton_self e)) hlost htold⟩
        · rw [List.countP_cons_of_pos (e.isAnswered_of_page? hpage)] at hbudget
          exact .step hnext hseen hspec hpage (ih hrest (by omega))

/-- The listing of all jobs is a walk that ends in the jobs of all its pages, if there are any. -/
theorem wholeListing_hears {budget : Nat} {result : Except Failure Json}
    (h : Task.Hears (wholeListing budget) exchanges result) (hbudget : exchanges.countP Exchange.isAnswered ≤ budget) :
    ∃ links, IsWalk exchanges links ∧
      EndsIn ((∀ e ∈ exchanges, e.isAnswered = true) ∧ listedJobs (pagesOf exchanges) ≠ []) (listingOf (pagesOf exchanges))
        exchanges result := by
  unfold wholeListing at h
  rcases fetch_bind_hears h with ⟨e, f, rfl, hspec, hlost, rfl, htold⟩ | ⟨e, page, rest, rfl, hspec, hpage, hrest⟩
  · exact ⟨[], isWalk_of_trouble hspec hlost,
      .of_trouble (fun hall => hall.1 e (List.mem_singleton_self e)) hlost htold⟩
  have hanswered := e.isAnswered_of_page? hpage
  rw [List.countP_cons_of_pos hanswered] at hbudget
  have hall : (∀ x ∈ e :: rest, x.isAnswered = true) ↔ ∀ x ∈ rest, x.isAnswered = true := by
    simp [hanswered]
  rw [hall, pagesOf_cons hpage]
  rcases Task.hears_bind hrest with ⟨f, hfailed, rfl⟩ | ⟨front, jobs, back, rfl, hcollected, hdone⟩
  · obtain ⟨links, hfollows, hends⟩ := collect_hears budget hfailed (by omega)
    refine ⟨links, hfollows.isWalk hspec hpage, EndsIn.behind hanswered ?_⟩
    cases hends with
    | failure hcomplete hf => exact .failure (fun hboth => hcomplete hboth.1) hf
  · rw [List.countP_append] at hbudget
    obtain ⟨links, hfollows, hends⟩ := collect_hears budget hcollected (by omega)
    rw [List.nil_append] at hends
    cases hends with
    | value hcomplete =>
      by_cases hempty : listedJobs (page :: pagesOf front) = []
      · rw [if_pos (by simpa using hempty)] at hdone
        obtain ⟨rfl, rfl⟩ := Program.hears_done hdone
        rw [List.append_nil]
        refine ⟨links, hfollows.isWalk hspec hpage, EndsIn.behind hanswered (.failure (fun hboth => hboth.2 hempty) ?_)⟩
        exact (refusal?_of_all_answered hcomplete).symm
      · rw [if_neg (by simpa using hempty)] at hdone
        obtain ⟨rfl, rfl⟩ := Task.hears_pure hdone
        rw [List.append_nil]
        exact ⟨links, hfollows.isWalk hspec hpage, .value ⟨hcomplete, hempty⟩⟩

/-! ## Runs -/

/-- What a run sends and tells that lists all jobs. A link is not sent to if the client does not take the URL to which it
leads, and as any other page that is not answered it ends the walk. -/
structure ListsJobs (config : SessionConfig) (client : Client) (base : Url) (exchanges : List Exchange) (links : List String)
    (sent : List Attempt) (report : Report) : Prop where
  sent : AreCarried (fun e a => e.IsSentAs a ∧ e.IsAddressedAs base Family.ome.root a) exchanges sent
  unsent : ∀ e ∈ exchanges, e.isUnsent = true ↔ RefusesUrl config client e.spec
  walk : IsWalk exchanges links
  requests : exchanges.length ≤ (distinctLinks (pagesOf exchanges)).length + 1
  succeeds : report.isFailed = false ↔ (∀ e ∈ exchanges, e.isAnswered = true) ∧ listedJobs (pagesOf exchanges) ≠ []
  listed : report.isFailed = false → report.get? "job_info" = some (listingOf (pagesOf exchanges))
  /-- A failure hands on no page, but only what the last reply has refused with. -/
  withheld : report.isFailed = true → report.get? "job_info" = exchanges.getLast?.bind Exchange.refusal?

theorem transcript_answered_le (op : Operation) (check : Bool) (files : FileTree) (config : SessionConfig) (wire : Wire) :
    (op.transcript check files config wire).countP Exchange.isAnswered ≤ wire.device.replies.length := by
  have hopen := open_replies files config wire
  rcases ho : Session.open files config wire with ⟨shown, opened⟩
  rw [ho] at hopen
  cases shown with
  | error e =>
    rw [(unopened_run ho op check).1]
    exact Nat.zero_le _
  | ok s =>
    have hleft : opened.device.replies.length ≤ wire.device.replies.length := hopen
    have hrun := (op.task check (linkBudget wire)).program.run_replies s opened
    rw [(opened_run ho op check).1]
    omega

theorem listingTask_hears {options : Option ListingOptions} (hoptions : ∀ o ∈ options, o.isEmpty = true) {budget : Nat}
    {result : Except Failure Report} (h : Task.Hears (listingTask none options budget) exchanges result)
    (hbudget : exchanges.countP Exchange.isAnswered ≤ budget) :
    ∃ links, IsWalk exchanges links ∧
      EndsIn ((∀ e ∈ exchanges, e.isAnswered = true) ∧ listedJobs (pagesOf exchanges) ≠ [])
        ((Report.ok "Successfully fetched the job info").withPayload "job_info" (listingOf (pagesOf exchanges)))
        exchanges result := by
  have hnone : options.filter (!·.isEmpty) = none := by
    cases options with
    | none => rfl
    | some o => simp [hoptions o rfl]
  unfold listingTask at h
  simp only [hnone] at h
  rcases Task.hears_bind h with ⟨f, hfailed, rfl⟩ | ⟨front, info, rest, rfl, hlisted, hdone⟩
  · obtain ⟨links, hwalk, hends⟩ := wholeListing_hears hfailed hbudget
    refine ⟨links, hwalk, ?_⟩
    cases hends with
    | failure hcomplete hf => exact .failure hcomplete hf
  · obtain ⟨rfl, rfl⟩ := Task.hears_pure hdone
    rw [List.append_nil] at hbudget ⊢
    obtain ⟨links, hwalk, hends⟩ := wholeListing_hears hlisted hbudget
    refine ⟨links, hwalk, ?_⟩
    cases hends with
    | value hcomplete => exact .value hcomplete

theorem EndsIn.told {complete : Prop} {message : String} {info : Json} {result : Except Failure Report}
    (h : EndsIn complete ((Report.ok message).withPayload "job_info" info) exchanges result) :
    ((Report.ofResult result).isFailed = false ↔ complete) ∧
      ((Report.ofResult result).isFailed = false → (Report.ofResult result).get? "job_info" = some info) ∧
      ((Report.ofResult result).isFailed = true →
        (Report.ofResult result).get? "job_info" = exchanges.getLast?.bind Exchange.refusal?) := by
  cases h with
  | value hcomplete =>
    have hsuccess : (Report.ofResult (.ok ((Report.ok message).withPayload "job_info" info))).isFailed = false := rfl
    rw [hsuccess]
    exact ⟨⟨fun _ => hcomplete, fun _ => rfl⟩, fun _ => rfl, fun hfailed => by cases hfailed⟩
  | @failure f hcomplete hf =>
    have hfailed : (Report.ofResult (.error f)).isFailed = true := Report.isFailed_ofFailure f
    rw [hfailed]
    exact ⟨⟨fun hsuccess => (by cases hsuccess), fun hall => absurd hall hcomplete⟩, fun hsuccess => (by cases hsuccess),
      fun _ => hf⟩

/-- A run that asks for no one job and brings no options lists all jobs: it walks through the pages of the collection,
link by link, and tells the jobs of all of them or fails. -/
theorem run_walks_listing {options : Option ListingOptions} (hoptions : ∀ o ∈ options, o.isEmpty = true) (check : Bool)
    (files : FileTree) {config : SessionConfig} (hfamily : config.family = .ome) (wire : Wire) :
    ∃ opening sent closing : List Attempt,
      ((listing none options).run check files config wire).2.attempts = wire.attempts ++ opening ++ sent ++ closing ∧
      opening.length ≤ 1 ∧ (∀ a ∈ opening, IsLogin config a.request) ∧
      closing.length ≤ 1 ∧ (∀ a ∈ closing, ∃ id, IsDeletion config id a.request) ∧
      match (Session.open files config wire).1 with
      | .error _ => sent = [] ∧ ((listing none options).run check files config wire).1.isFailed = true ∧
          ((listing none options).run check files config wire).1.get? "job_info" = none
      | .ok s => config.endpoint.baseUrl = .ok s.base ∧ ∃ links, ListsJobs config wire.client s.base
          ((listing none options).transcript check files config wire) links sent
          ((listing none options).run check files config wire).1 := by
  obtain ⟨opening, sent, closing, h⟩ := (listing none options).run_attempts check files config wire
  refine ⟨opening, sent, closing, h.attempts, h.opening_length, h.opening_login, h.closing_length, h.closing_deletion, ?_⟩
  have hopened := h.opened
  rw [run_report]
  cases ho : (Session.open files config wire).1 with
  | error e =>
    rw [ho] at hopened
    obtain ⟨hnone, hresult⟩ := hopened
    rw [hresult]
    exact ⟨hnone, Report.isFailed_ofFailure _, get?_ofSessionError e⟩
  | ok s =>
    rw [ho] at hopened
    obtain ⟨hbase, hhears⟩ := hopened
    have hsendable : HasSendableIdentifier config := hasSendableIdentifier_of_ne (by rw [hfamily]; decide)
    have hbudget := Nat.le_succ_of_le (transcript_answered_le (listing none options) check files config wire)
    obtain ⟨links, hwalk, hends⟩ := listingTask_hears hoptions hhears hbudget
    obtain ⟨hsucceeds, hlisted, hwithheld⟩ := hends.told
    refine ⟨hbase, links, h.carried.imp (fun e a hcarried => ?_), fun e he => h.isUnsent_iff_refusesUrl hsendable he, hwalk,
      hwalk.length_le, hsucceeds, hlisted, hwithheld⟩
    rw [← hfamily]
    exact ⟨hcarried.1, hcarried.2.isAddressedAs hbase⟩

/-- Two pages, of which the second names itself. -/
theorem run_walks_listing_cycle :
    let options : Option ListingOptions := some ⟨none, none, none⟩
    let config : SessionConfig := ⟨⟨"127.0.0.1", 443, .http, .system, 30000⟩, .token "t", .ome, none⟩
    let first := "\x7b\"@odata.context\": \"c\", \"@odata.nextLink\": \"/api/next\", " ++
      "\"value\": [\x7b\"Id\": 1, \"a@odata.id\": 2\x7d]\x7d"
    let second := "\x7b\"@odata.nextLink\": \"/api/next\", \"value\": [3]\x7d"
    let wire : Wire := ⟨⟨.ipv4 0x7F000001, 443, true, none,
      [.answer 200 [] (Text.encodeUtf8 first), .answer 200 [] (Text.encodeUtf8 second)]⟩, []⟩
    let report := ((listing none options).run false FileTree.empty config wire).1
    (∀ o ∈ options, o.isEmpty = true) ∧ config.family = .ome ∧ report.isFailed = false ∧
      ∃ base links sent,
        ListsJobs config wire.client base ((listing none options).transcript false FileTree.empty config wire) links sent report := by
  intro options config first second wire report
  have hoptions : ∀ o ∈ options, o.isEmpty = true := by
    intro o ho
    obtain rfl : ⟨none, none, none⟩ = o := Option.some.inj ho
    rfl
  have hsuccess : report.isFailed = false := by decide +kernel
  have hfamily : config.family = .ome := rfl
  obtain ⟨opening, sent, closing, _, _, _, _, _, hended⟩ :=
    run_walks_listing hoptions false FileTree.empty hfamily wire
  split at hended
  · rw [hsuccess] at hended
    cases hended.2.1
  · obtain ⟨_, links, hlists⟩ := hended
    exact ⟨hoptions, hfamily, hsuccess, _, links, sent, hlists⟩

/-- A page that is redirected takes a request more than there are links and one, and what is told is the page behind it. -/
theorem run_walks_listing_redirected :
    let config : SessionConfig := ⟨⟨"127.0.0.1", 443, .http, .system, 30000⟩, .token "t", .ome, none⟩
    let page := Text.encodeUtf8 "\x7b\"value\": [1]\x7d"
    let wire : Wire := ⟨⟨.ipv4 0x7F000001, 443, true, none,
      [.answer 302 [("location", "/elsewhere")] [], .answer 200 [] page]⟩, []⟩
    let run := (listing none none).run false FileTree.empty config wire
    run.1.isFailed = false ∧ run.2.requests.map (fun request => (request.method, request.url.target)) =
      [("GET", "/api/JobService/Jobs"), ("GET", "/elsewhere")] := by
  decide +kernel

end Operation

end OutOfBand
