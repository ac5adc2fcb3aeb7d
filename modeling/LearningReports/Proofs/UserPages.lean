import LearningReports.Directory.Client
import LearningReports.Proofs.Returns
import Mathlib.Data.List.Forall2
import Mathlib.Data.List.GetD

/-! # Pages of users

The users of a power user come in pages, and each page tells how many there are. A client asks for
the pages by number, each once, up to that number; what it gives are the ids of all of them in
order. At a page that is refused it stops with the refusal. -/
namespace LearningReports

/-! ## Exchanges -/

namespace Exchange

/-- The answer to the request that comes after so many others. -/
def answerAfter (x : Exchange) (n : Nat) : Answer := x.answers.getD n nothingFound

def after (x : Exchange) (requests : List Request) : Exchange :=
  { answers := x.answers.drop requests.length, sent := x.sent ++ requests }

variable {x : Exchange}

@[simp] theorem after_nil : x.after [] = x := by simp [after]

theorem after_append (rs rs' : List Request) : x.after (rs ++ rs') = (x.after rs).after rs' := by
  simp [after]

theorem answerAfter_after (rs : List Request) (n : Nat) :
    (x.after rs).answerAfter n = x.answerAfter (rs.length + n) := by
  simp [answerAfter, after]

theorem send_eq (r : Request) : x.send r = (x.answerAfter 0, x.after [r]) := by
  simp [send, answerAfter, after, List.headD_eq_head?_getD, List.head?_eq_getElem?]

theorem lt_length_of_status {n : Nat} (h : (x.answerAfter n).status = 200) :
    n < x.answers.length := by
  apply Nat.lt_of_not_le
  intro hn
  rw [answerAfter, List.getD_eq_default _ _ hn] at h
  exact absurd h (by decide)

end Exchange

/-! ## What an answer tells -/

/-- The users that are listed: entries that each denote an integer. -/
inductive UsersListed : Option Json → List Int → Prop
  | unsaid : UsersListed none []
  | entries {items : List Json} {ids : List Int}
      (h : List.Forall₂ (fun v id => v.toInteger = .ok id) items ids) :
      UsersListed (some (.arr items)) ids

/-- The total that is told: an integer, or text that denotes one. Where none is told or it is null
the total is one. -/
inductive TotalTold : Option Json → Int → Prop
  | unsaid : TotalTold none 1
  | null : TotalTold (some .null) 1
  | integer (total : Int) : TotalTold (some (.int total)) total
  | text {s : String} {total : Int} (h : Number.readInteger s = .ok total) :
      TotalTold (some (.str s)) total

/-- The number of pages of which a total tells. There is always a first page. -/
def pageCount (total : Int) : Nat := max total.toNat 1

theorem pageCount_le_iff {total : Int} {number : Nat} (h : 1 ≤ number) :
    pageCount total ≤ number ↔ total ≤ number := by
  unfold pageCount
  omega

/-- The content of an answer is a page with such ids, of so many pages. An object without data is
the only page there is, and an empty one. -/
inductive Answer.HoldsPage (a : Answer) : List Int → Nat → Prop
  | bare {ms : Members} (content : a.content = some (.obj ms))
      (absent : ∀ v ∈ lookup? "data" ms, v.isPresent = false) : a.HoldsPage [] 1
  | full {ms data : Members} {ids : List Int} {total : Int} (content : a.content = some (.obj ms))
      (holds : lookup? "data" ms = some (.obj data))
      (users : UsersListed (lookup? "items" data) ids)
      (told : TotalTold (lookup? "total_pages" data) total) : a.HoldsPage ids (pageCount total)

variable {a : Answer} {ids : List Int} {pages : Nat}

theorem Number.ne_empty_of_readInteger {s : String} {n : Int} (h : readInteger s = .ok n) :
    s.isEmpty = false := by
  rw [Bool.eq_false_iff]
  intro hs
  have hempty : readInteger "" = .error .malformed := by decide
  rw [String.isEmpty_iff.mp hs, hempty] at h
  cases h

theorem UsersListed.elements {v : Option Json} (h : UsersListed v ids) :
    (v.getD (.arr [])).elements >>= List.mapM Json.toInteger = .ok ids := by
  cases h with
  | unsaid => rfl
  | entries h => exact Outcome.mapM_eq_ok_iff.mpr h

/-- A total that is told is read, up to what counts as one page. -/
theorem TotalTold.toInteger {v : Option Json} {total : Int} (h : TotalTold v total) :
    ∃ n, ((v.getD (.int 1)).orDefault (.int 1)).toInteger = .ok n ∧
      pageCount n = pageCount total := by
  cases h with
  | unsaid => exact ⟨1, rfl, rfl⟩
  | null => exact ⟨1, rfl, rfl⟩
  | integer =>
    by_cases h0 : total = 0
    · subst h0
      exact ⟨1, rfl, rfl⟩
    · exact ⟨total, by simp [Json.orDefault, Json.isPresent, h0], rfl⟩
  | @text s _ h =>
    refine ⟨total, ?_, rfl⟩
    simp [Json.orDefault, Json.isPresent, Number.ne_empty_of_readInteger h, Json.toInteger, h]

theorem Client.dataOr_obj (ms : Members) (default : Json) :
    dataOr (.obj ms) default = .ok (((lookup? "data" ms).getD .null).orDefault default) := rfl

theorem Client.readPage_of_data {payload : Json} {data : Members} {n : Int}
    (hdata : dataOr payload Json.noMembers = .ok (.obj data))
    (hids : ((lookup? "items" data).getD (.arr [])).elements >>= List.mapM Json.toInteger = .ok ids)
    (hpages : (((lookup? "total_pages" data).getD (.int 1)).orDefault (.int 1)).toInteger = .ok n) :
    readPage payload = .ok { ids := ids, pages := n } := by
  obtain ⟨items, hitems, hids⟩ := Outcome.bind_eq_ok_iff.mp hids
  unfold readPage
  refine Outcome.bind_eq_ok_iff.mpr ⟨_, hdata, Outcome.bind_eq_ok_iff.mpr ⟨_, rfl, ?_⟩⟩
  refine Outcome.bind_eq_ok_iff.mpr ⟨_, hitems, Outcome.bind_eq_ok_iff.mpr ⟨_, hids, ?_⟩⟩
  refine Outcome.bind_eq_ok_iff.mpr ⟨_, rfl, ?_⟩
  exact Outcome.bind_eq_ok_iff.mpr ⟨_, hpages, rfl⟩

theorem Answer.HoldsPage.readPage (h : a.HoldsPage ids pages) :
    ∃ content n, a.content = some content ∧
      Client.readPage content = .ok { ids := ids, pages := n } ∧ pageCount n = pages := by
  cases h with
  | @bare ms content absent =>
    have hdata : Client.dataOr (.obj ms) Json.noMembers = .ok (.obj []) := by
      rw [Client.dataOr_obj]
      cases hv : lookup? "data" ms with
      | none => rfl
      | some v => simp [Json.orDefault, absent v hv, Json.noMembers]
    exact ⟨_, 1, content, Client.readPage_of_data hdata rfl rfl, rfl⟩
  | @full ms data _ total content holds users told =>
    obtain ⟨n, hn, hpages⟩ := told.toInteger
    have hdata : Client.dataOr (.obj ms) Json.noMembers = .ok (.obj data) := by
      rw [Client.dataOr_obj, holds]
      cases data <;> rfl
    exact ⟨_, n, content, Client.readPage_of_data hdata users.elements hn, hpages⟩

/-! ## Runs -/

namespace Client

variable {c : Client} {x : Exchange}

/-- The request for a page of users. -/
def pageRequest (c : Client) (number : Nat) : Request where
  method := .get
  path := c.basePath ++ "/report/v1/report/pu_users"
  query := [("page_dimension", "1000"), ("page_number", toString number)]
  headers := c.headers .get
  body := none

/-- How the client fails when a page is refused with a status. -/
def pageRefusal (status : Int) : Failure :=
  .directory (.ofStatus status)
    ("Metadata service answered " ++ toString status ++ " for GET /report/v1/report/pu_users")
    (some status)

theorem runOn_get (path : String) (query : List (String × String)) :
    runOn (c.get path query) x = ((x.answerAfter 0).contentFor .get path,
      x.after [{ method := .get, path := c.basePath ++ path, query := query,
                 headers := c.headers .get, body := none }]) := by
  have hsent (r : Request) : runOn (modifyGet (Exchange.send r) : Exchanging Answer) x =
      (.ok (x.answerAfter 0), x.after [r]) := by
    show (Except.ok (x.send r).1, (x.send r).2) = _
    rw [Exchange.send_eq]
  unfold get ask
  rw [runOn_bind_of_ok (hsent _), runOn_lift]

theorem runOn_page (number : Nat) : runOn (c.page number) x =
    ((x.answerAfter 0).contentFor .get "/report/v1/report/pu_users" >>= readPage,
      x.after [c.pageRequest number]) :=
  runOn_bind_lift (runOn_get _ _) readPage

theorem runOn_page_of_refused {number : Nat} (h : (x.answerAfter 0).status ≠ 200) :
    runOn (c.page number) x =
      (.error (pageRefusal (x.answerAfter 0).status), x.after [c.pageRequest number]) := by
  have hmessage (s : String) :
      s ++ " for " ++ Method.get.text ++ " " ++ "/report/v1/report/pu_users" =
        s ++ " for GET /report/v1/report/pu_users" := by
    simp only [Method.text, String.append_assoc]
    rfl
  rw [runOn_page, Answer.contentFor, if_pos h, hmessage]
  rfl

theorem runOn_page_of_served (number : Nat) (h : (x.answerAfter 0).status = 200)
    (hpage : (x.answerAfter 0).HoldsPage ids pages) :
    ∃ n, runOn (c.page number) x =
        (.ok { ids := ids, pages := n }, x.after [c.pageRequest number]) ∧
      pageCount n = pages := by
  obtain ⟨content, n, hcontent, hread, hn⟩ := hpage.readPage
  refine ⟨n, ?_, hn⟩
  rw [runOn_page, Answer.contentFor, if_neg (not_not_intro h), hcontent]
  exact congrArg (·, _) hread

/-! ### Page by page -/

variable {fuel number : Nat}

theorem runOn_usersFrom_of_refused (h : (x.answerAfter 0).status ≠ 200) :
    runOn (c.usersFrom (fuel + 1) number) x =
      (.error (pageRefusal (x.answerAfter 0).status), x.after [c.pageRequest number]) := by
  unfold usersFrom
  exact runOn_bind_of_error (runOn_page_of_refused h)

theorem runOn_usersFrom_of_last (h : (x.answerAfter 0).status = 200)
    (hpage : (x.answerAfter 0).HoldsPage ids pages) (hnumber : 1 ≤ number)
    (hlast : pages ≤ number) :
    runOn (c.usersFrom (fuel + 1) number) x = (.ok ids, x.after [c.pageRequest number]) := by
  obtain ⟨n, hrun, hcount⟩ := runOn_page_of_served (c := c) number h hpage
  rw [← hcount, pageCount_le_iff hnumber] at hlast
  rw [usersFrom, runOn_bind_of_ok hrun, if_pos hlast]
  rfl

/-- A page before the last one: its ids come first, and the next page is asked for. -/
theorem runOn_usersFrom_of_served (h : (x.answerAfter 0).status = 200)
    (hpage : (x.answerAfter 0).HoldsPage ids pages) (hnumber : 1 ≤ number)
    (hmore : number < pages) :
    runOn (c.usersFrom (fuel + 1) number) x =
      (runOn (c.usersFrom fuel (number + 1)) (x.after [c.pageRequest number])).map
        (Except.map (ids ++ ·)) id := by
  obtain ⟨n, hrun, hcount⟩ := runOn_page_of_served (c := c) number h hpage
  rw [← hcount, ← Nat.not_le, pageCount_le_iff hnumber] at hmore
  rw [usersFrom, runOn_bind_of_ok hrun, if_neg hmore]
  exact runOn_bind_pure (ids ++ ·)

theorem runOn_usersFrom_add (ids : Nat → List Int) (m : Nat) (number : Nat) (x : Exchange)
    (h : ∀ i < m, (x.answerAfter i).status = 200)
    (hpages : ∀ i < m, (x.answerAfter i).HoldsPage (ids (number + i)) pages)
    (hnumber : 1 ≤ number) (hmore : number + m ≤ pages) :
    runOn (c.usersFrom (fuel + m) number) x =
      (runOn (c.usersFrom fuel (number + m))
        (x.after ((List.range' number m).map c.pageRequest))).map
        (Except.map ((List.range' number m).flatMap ids ++ ·)) id := by
  induction m generalizing number x with
  | zero =>
    show _ = (runOn (c.usersFrom fuel number) (x.after [])).map (Except.map ([] ++ ·)) id
    rw [Exchange.after_nil]
    cases runOn (c.usersFrom fuel number) x with
    | mk outcome next => cases outcome <;> rfl
  | succ m ih =>
    have hlater (i : Nat) :
        (x.after [c.pageRequest number]).answerAfter i = x.answerAfter (i + 1) :=
      (Exchange.answerAfter_after _ i).trans (congrArg x.answerAfter (Nat.add_comm 1 i))
    have hnext := ih (number + 1) (x.after [c.pageRequest number])
      (fun i hi => by rw [hlater]; exact h (i + 1) (by omega))
      (fun i hi => by
        rw [hlater, Nat.add_assoc, Nat.add_comm 1 i]
        exact hpages (i + 1) (by omega))
      (by omega) (by omega)
    rw [← Nat.add_assoc, runOn_usersFrom_of_served (h 0 (by omega)) (hpages 0 (by omega)) hnumber
      (by omega), hnext, ← Exchange.after_append, List.range'_succ, List.map_cons,
      List.flatMap_cons, List.singleton_append, Nat.add_assoc, Nat.add_comm 1 m]
    generalize runOn (c.usersFrom fuel _) _ = later
    cases later with
    | mk outcome next => cases outcome <;> simp [Except.map, Prod.map]

/-! ### All pages -/

/-- A run that goes through some pages and stops at the next one. As many answers as are left bound
the pages, so it gets that far. -/
theorem runOn_assignedUsers (ids : Nat → List Int) {m : Nat} {o : Outcome (List Int)}
    (h : ∀ i < m, (x.answerAfter i).status = 200)
    (hpages : ∀ i < m, (x.answerAfter i).HoldsPage (ids (i + 1)) pages) (hmore : m < pages)
    (hstop : ∀ (fuel : Nat) (y : Exchange), y.answerAfter 0 = x.answerAfter m →
      runOn (c.usersFrom (fuel + 1) (m + 1)) y = (o, y.after [c.pageRequest (m + 1)])) :
    runOn c.assignedUsers x =
      (o.map ((List.range' 1 m).flatMap ids ++ ·),
        x.after ((List.range' 1 (m + 1)).map c.pageRequest)) := by
  have hleft : m ≤ x.answers.length := by
    cases m with
    | zero => exact Nat.zero_le _
    | succ m => exact Exchange.lt_length_of_status (h m (Nat.lt_succ_self m))
  have hfuel : x.answers.length + 1 = x.answers.length - m + 1 + m := by omega
  have hnext : (x.after ((List.range' 1 m).map c.pageRequest)).answerAfter 0 = x.answerAfter m := by
    rw [Exchange.answerAfter_after, List.length_map, List.length_range', Nat.add_zero]
  show runOn (c.usersFrom (x.answers.length + 1) 1) x = _
  rw [hfuel, runOn_usersFrom_add ids m 1 x h (fun i hi => Nat.add_comm i 1 ▸ hpages i hi)
    (Nat.le_refl 1) (Nat.add_comm m 1 ▸ hmore), Nat.add_comm 1 m, hstop _ _ hnext,
    List.range'_concat, Nat.one_mul, Nat.add_comm 1 m, List.map_append, Exchange.after_append]
  rfl

/-- When the pages that are served all tell of the same total, each page up to it is asked for once
and in order, and the outcome are the ids of all pages; or else one page is refused, it is the last
that is asked for, and the outcome is its refusal. -/
theorem each_page_is_read_once (c : Client) (x : Exchange) (total : Int) (ids : Nat → List Int)
    (same : ∀ i < pageCount total, (x.answerAfter i).status = 200 →
      (x.answerAfter i).HoldsPage (ids (i + 1)) (pageCount total)) :
    ((∀ i < pageCount total, (x.answerAfter i).status = 200) →
      runOn c.assignedUsers x =
        (.ok ((List.range' 1 (pageCount total)).flatMap ids),
          x.after ((List.range' 1 (pageCount total)).map c.pageRequest))) ∧
    ∀ k < pageCount total, (∀ i < k, (x.answerAfter i).status = 200) →
      (x.answerAfter k).status ≠ 200 →
      runOn c.assignedUsers x =
        (.error (pageRefusal (x.answerAfter k).status),
          x.after ((List.range' 1 (k + 1)).map c.pageRequest)) := by
  have hpages {m : Nat} (hm : m < pageCount total) (h : ∀ i < m, (x.answerAfter i).status = 200) :
      ∀ i < m, (x.answerAfter i).HoldsPage (ids (i + 1)) (pageCount total) :=
    fun i hi => same i (Nat.lt_trans hi hm) (h i hi)
  constructor
  · intro h
    obtain ⟨m, hm⟩ : ∃ m, pageCount total = m + 1 :=
      Nat.exists_eq_succ_of_ne_zero (by unfold pageCount; omega)
    have hlast : m < pageCount total := hm ▸ Nat.lt_succ_self m
    have hserved : ∀ i < m, (x.answerAfter i).status = 200 :=
      fun i hi => h i (Nat.lt_trans hi hlast)
    rw [runOn_assignedUsers ids hserved (hpages hlast hserved) hlast fun fuel y hy =>
      runOn_usersFrom_of_last (hy ▸ h m hlast) (hy ▸ same m hlast (h m hlast)) (Nat.le_add_left 1 m)
        (Nat.le_of_eq hm), hm, List.range'_concat, List.flatMap_append, Nat.one_mul,
        Nat.add_comm 1 m]
    simp [Except.map]
  · intro k hk hserved hrefused
    rw [runOn_assignedUsers ids hserved (hpages hk hserved) hk fun fuel y hy =>
      hy ▸ runOn_usersFrom_of_refused (hy ▸ hrefused)]
    rfl

def servedPage (items : List Json) (total : Json) : Answer where
  content := some (.obj [("data", .obj [("items", .arr items), ("total_pages", total)])])

/-- A server with three pages, and one that refuses the second of them. -/
def threePages (refuses : Bool) : Exchange where
  answers :=
    [servedPage [.int 10] (.int 3),
      if refuses then { status := 500 } else servedPage [.str "20", .int 21] (.str "3"),
      servedPage [] (.str " +3"),
      servedPage [.int 40] (.int 3)]

def threeIds (number : Nat) : List Int := [[10], [20, 21], []].getD (number - 1) []

theorem threePages_are_read_once :
    (∀ refuses, ∀ i < pageCount 3, ((threePages refuses).answerAfter i).status = 200 →
      ((threePages refuses).answerAfter i).HoldsPage (threeIds (i + 1)) (pageCount 3)) ∧
    (∀ i < pageCount 3, ((threePages false).answerAfter i).status = 200) ∧
    runOn ({} : Client).assignedUsers (threePages false) =
      (.ok [10, 20, 21],
        { answers := [servedPage [.int 40] (.int 3)]
          sent := [1, 2, 3].map ({} : Client).pageRequest }) ∧
    ((threePages true).answerAfter 1).status ≠ 200 ∧
    runOn ({} : Client).assignedUsers (threePages true) =
      (.error (.directory .server "Metadata service answered 500 for GET /report/v1/report/pu_users"
          (some 500)),
        { answers := [servedPage [] (.str " +3"), servedPage [.int 40] (.int 3)]
          sent := [1, 2].map ({} : Client).pageRequest }) := by
  have hsame : ∀ refuses, ∀ i < pageCount 3, ((threePages refuses).answerAfter i).status = 200 →
      ((threePages refuses).answerAfter i).HoldsPage (threeIds (i + 1)) (pageCount 3) := by
    intro refuses i hi hstatus
    match i, hi, refuses with
    | 0, _, _ => exact .full rfl rfl (.entries (.cons rfl .nil)) (.integer 3)
    | 1, _, true => exact absurd hstatus (by decide)
    | 1, _, false =>
      exact .full rfl rfl (.entries (.cons (by rfl) (.cons rfl .nil))) (.text (by rfl))
    | 2, _, _ => exact .full rfl rfl (.entries .nil) (.text (by rfl))
  have hserved : ∀ i < pageCount 3, ((threePages false).answerAfter i).status = 200 := by decide
  refine ⟨hsame, hserved, ?_, by decide, ?_⟩
  · exact (each_page_is_read_once {} (threePages false) 3 threeIds (hsame false)).1 hserved
  · exact (each_page_is_read_once {} (threePages true) 3 threeIds (hsame true)).2 1 (by decide)
      (by decide) (by decide)

end Client
end LearningReports
