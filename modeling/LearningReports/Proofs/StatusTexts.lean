import LearningReports.Proofs.EnrollmentStatuses
import LearningReports.Proofs.WhereClauses

/-! # Status filters as texts

A status filter has its brackets where they have to be: whoever makes of single comparisons what a
row says, reads the text of the whole filter as the choice of statuses that its flags make. -/
namespace LearningReports

open Sql (Dialect Expr Valuation)
open Text (Facts IsChain Spells Trees)

namespace Text

/-- The trees of tokens among which there are no brackets. -/
def leaves : List Token → Trees
  | [] => .nil
  | t :: ts => .leaf t (leaves ts)

theorem tokens_leaves (ts : List Token) : (leaves ts).tokens = ts := by
  induction ts with
  | nil => rfl
  | cons t ts ih => exact congrArg (t :: ·) ih

theorem tops_leaves (ts : List Token) : (leaves ts).tops = ts := by
  induction ts with
  | nil => rfl
  | cons t ts ih => exact congrArg (t :: ·) ih

theorem isPlain_leaves {ts : List Token} (h : ∀ t ∈ ts, t.edge = .none) : (leaves ts).IsPlain := by
  induction ts with
  | nil => trivial
  | cons t ts ih =>
    rw [List.forall_mem_cons] at h
    exact ⟨h.1, ih h.2⟩

namespace IsChain

variable {s s' : String}

theorem of_tokens (hs : Closed s) (h : ∀ t ∈ tokens s, t.edge = .none ∧ t ≠ orToken) :
    IsChain s := by
  have hplain := isPlain_leaves fun t ht => (h t ht).1
  refine ⟨leaves (tokens s), ⟨hs, (tokens_leaves _).symm, hplain⟩, ?_⟩
  rw [tops_leaves]
  exact fun hmem => (h _ hmem).2 rfl

theorem blank (h : IsChain s) (h' : IsChain s') : IsChain (s ++ " " ++ s') := by
  obtain ⟨t, ht, hor⟩ := h
  obtain ⟨t', ht', hor'⟩ := h'
  refine ⟨_, ht.blank ht', ?_⟩
  simp [hor, hor']

theorem comma (h : IsChain s) (h' : IsChain s') : IsChain (s ++ ", " ++ s') := by
  obtain ⟨t, ht, hor⟩ := h
  obtain ⟨t', ht', hor'⟩ := h'
  have hcomma : orToken ≠ .symbol ',' := by decide
  refine ⟨_, ht.comma ht', ?_⟩
  simp [Trees.tops, hor, hor', hcomma]

theorem paren (h : IsChain s) : IsChain ("(" ++ s ++ ")") := by
  obtain ⟨t, ht, -⟩ := h
  exact ⟨_, ht.paren, List.not_mem_nil⟩

end IsChain
end Text

namespace Sql.Dialect

variable {d : Dialect} {a b : Expr}

theorem isChain_op (o : Operator) (ho : o ≠ .or) (ha : IsChain (d.render a))
    (hb : IsChain (d.render b)) : IsChain (d.render (.op o a b)) := by
  have hword : IsChain o.text := by
    cases o with
    | or => exact absurd rfl ho
    | _ => exact .of_tokens (by decide) (by decide)
  exact (ha.blank hword).blank hb

theorem isChain_not (h : IsChain (d.render a)) : IsChain (d.render (.not a)) := by
  have hword : IsChain "NOT" := .of_tokens (by decide) (by decide)
  have htext : "NOT " ++ d.render a = "NOT" ++ " " ++ d.render a := rfl
  change IsChain ("NOT " ++ d.render a)
  rw [htext]
  exact hword.blank h

theorem isChain_int (n : Int) : IsChain (d.render (.int n)) := by
  have hdigits (n : Nat) : Text.orToken ≠ .word (Nat.toDigits 10 n) := by
    intro heq
    have hmem : 'O' ∈ Nat.toDigits 10 n := by
      rw [← Text.Token.word.inj heq]
      exact .head _
    exact absurd (Nat.isDigit_of_mem_toDigits (by decide) (by decide) hmem) (by decide)
  refine ⟨_, Text.spells_number n, ?_⟩
  cases n with
  | ofNat n => exact fun hmem => hdigits n (List.mem_singleton.mp hmem)
  | negSucc n =>
    intro hmem
    rcases List.mem_cons.mp hmem with heq | hmem
    · cases heq
    · exact hdigits n.succ (List.mem_singleton.mp hmem)

theorem isChain_list {es : List Expr} (ha : IsChain (d.render a))
    (hes : ∀ e ∈ es, IsChain (d.render e)) : IsChain (d.render (.list a es)) := by
  induction es generalizing a with
  | nil => exact ha
  | cons e es ih =>
    rw [List.forall_mem_cons] at hes
    exact ha.comma (ih hes.1 hes.2)

end Sql.Dialect

/-! ## Parts of a status filter -/

namespace EnrollmentColumns

/-- The columns of a status filter can be read, and its comparisons are taken for what a row says
of them. NOT turns around what the parentheses behind it say. -/
structure Understood (f : Facts) (d : Dialect) (v : Valuation) (filter : EnrollmentFilter)
    (status : Expr) (mark : Option WaitingMark) : Prop where
  chain_status : IsChain (d.render status)
  chain_waiting : ∀ w ∈ mark, IsChain (d.render w.waiting)
  chain_courseType : ∀ w ∈ mark, IsChain (d.render w.courseType)
  bracketed_status : status.isBracketed false = true
  bracketed_mark : ∀ w ∈ mark, w.condition.isBracketed false = true
  reads_code : f.reads d (d.render (.eq status EnrollmentStatus.waitingList.expr)) = true ↔
    v.Keeps (.eq status EnrollmentStatus.waitingList.expr)
  reads_codes : ∀ e ∈ isAmong status (pickedStatuses filter),
    (f.reads d (d.render e) = true ↔ v.Keeps e)
  reads_waiting : ∀ w ∈ mark,
    (f.reads d (d.render (.eq w.waiting (.int 1))) = true ↔ v.Keeps (.eq w.waiting (.int 1)))
  reads_courseType : ∀ w ∈ mark,
    (f.reads d (d.render (.eq w.courseType (.str "elearning"))) = true ↔
      v.Keeps (.eq w.courseType (.str "elearning")))
  reads_not : ∀ w ∈ mark,
    f.reads d (d.render (.not w.condition)) = !f.reads d (d.render w.condition)

namespace Understood

open Sql.Expr (SpeltBy)

variable {f : Facts} {d : Dialect} {v : Valuation} {filter : EnrollmentFilter} {status : Expr}
  {mark : Option WaitingMark} {marked : Bool} {w : WaitingMark}
  (h : Understood f d v filter status mark)
include h

theorem spelt_isAmong {e : Expr} (he : e ∈ isAmong status (pickedStatuses filter)) :
    SpeltBy f d v.Keeps e := by
  have hreads := h.reads_codes e he
  cases hss : pickedStatuses filter with
  | nil =>
    rw [hss] at he
    cases he
  | cons s ss =>
    rw [hss] at he
    cases he
    have hlist : IsChain (d.render (.list s.expr (ss.map EnrollmentStatus.expr))) :=
      Dialect.isChain_list (Dialect.isChain_int s.code)
        (List.forall_mem_map.mpr fun s' _ => Dialect.isChain_int s'.code)
    have hchain := Dialect.isChain_op .among nofun h.chain_status
      (show IsChain (d.render (.paren _)) from hlist.paren)
    exact List.forall_mem_singleton.mpr ⟨hchain, hreads⟩

theorem spelt_condition (hw : w ∈ mark) : SpeltBy f d v.Keeps w.condition := by
  have hword : IsChain (d.render (.str "elearning")) :=
    show IsChain "'elearning'" from .of_tokens (by decide) (by decide)
  have hwaiting := Dialect.isChain_op .eq nofun (h.chain_waiting w hw) (Dialect.isChain_int 1)
  have htype := Dialect.isChain_op .eq nofun (h.chain_courseType w hw) hword
  exact List.forall_mem_cons.mpr ⟨⟨hwaiting, h.reads_waiting w hw⟩,
    List.forall_mem_singleton.mpr ⟨htype, h.reads_courseType w hw⟩⟩

theorem spelt_isWaiting : SpeltBy f d v.Keeps (isWaiting status mark) := by
  have hwaiting : SpeltBy f d v.Keeps (.eq status EnrollmentStatus.waitingList.expr) :=
    List.forall_mem_singleton.mpr
      ⟨Dialect.isChain_op .eq nofun h.chain_status (Dialect.isChain_int _), h.reads_code⟩
  cases mark with
  | none => exact hwaiting
  | some w => exact List.forall_mem_append.mpr ⟨hwaiting, h.spelt_condition rfl⟩

theorem spelt_leaveOutWaiting (hmark : Marks v mark marked) {e : Expr}
    (he : SpeltBy f d v.Keeps e) : SpeltBy f d v.Keeps (leaveOutWaiting mark e) := by
  cases mark with
  | none => exact he
  | some w =>
    obtain ⟨⟨t, ht, hor⟩, hreads⟩ := Sql.Expr.reads_of_spelt (Sql.Expr.logical_keeps v)
      (h.bracketed_mark w rfl) (h.spelt_condition rfl)
    have hnot : f.reads d (d.render (.not w.condition)) = true ↔ v.Keeps (.not w.condition) := by
      rw [h.reads_not w rfl, Valuation.keeps_not_iff hmark, ← hreads, Bool.not_eq_true',
        Bool.not_eq_true]
    have hchain := Dialect.isChain_not ⟨t, ht, hor rfl⟩
    exact List.forall_mem_append.mpr ⟨he, List.forall_mem_singleton.mpr ⟨hchain, hnot⟩⟩

theorem spelt_statusAlternatives (hmark : Marks v mark marked) :
    ∀ e ∈ statusAlternatives filter status mark, SpeltBy f d v.Keeps e := by
  intro e he
  unfold statusAlternatives at he
  rcases List.mem_append.mp he with he | he
  · obtain ⟨a, ha, rfl⟩ := Option.map_eq_some_iff.mp (Option.mem_toList.mp he)
    split
    · exact h.spelt_isAmong ha
    · exact h.spelt_leaveOutWaiting hmark (h.spelt_isAmong ha)
  · obtain rfl := List.mem_singleton.mp (mem_when.mp he).2
    exact h.spelt_isWaiting

theorem spelt_statusFilter (hmark : Marks v mark marked) :
    ∀ e ∈ statusFilter (some filter) status mark, SpeltBy f d v.Keeps e := by
  intro e he
  simp only [statusFilter] at he
  split at he
  · cases he
  · split at he
    · cases he
    · next first rest heq =>
      obtain rfl := List.mem_singleton.mp he
      have hall := heq ▸ h.spelt_statusAlternatives hmark
      exact Sql.Expr.spelt_joined_or hall

/-- The text of a status filter is read as the choice of statuses that the flags make. -/
theorem reads_statusFilter_iff (hmark : Marks v mark marked) (hany : filter.flags.any id = true)
    {code : Int} (hcode : v.value status = .int code) :
    (∀ e ∈ statusFilter (some filter) status mark, f.reads d (d.render e) = true) ↔
      filter.flags.all id = true ∨
        ∃ s ∈ EnrollmentStatus.filtered? code marked, filter.picks s = true := by
  have hpassed : Passed (Expr.isBracketed false) (statusFilter (some filter) status mark) :=
    passed_statusFilter _ h.bracketed_status h.bracketed_mark
  rw [← keepsAll_statusFilter_iff hany hcode hmark]
  exact forall₂_congr fun e he => (Sql.Expr.reads_of_spelt (Sql.Expr.logical_keeps v)
    (hpassed e he).1 (h.spelt_statusFilter hmark e he)).2

end Understood
end EnrollmentColumns

/-! ## Live rows of users and courses -/

namespace UsersCourses

open Restrictions (noVisitors)

theorem restrictions_live {ctx : Context} (htype : ctx.type = .usersCourses) :
    (Layout.branch ctx .live).restrictions =
      (noVisitors :: liveStatusFilter ctx.definition.enrollment).map .and := by
  have hlive : (ctx.type.base ctx).side .live = live ctx := by rw [htype]; rfl
  rw [restrictions_branch, hlive, live, List.filterMap_append, restrictions_restrictAll]
  rfl

variable {f : Facts} {d : Dialect} {v : Valuation} {filter : EnrollmentFilter} {code waiting : Int}
  {courseType : String} {ctx : Context}

/-- What stands after the WHERE of live rows leaves out visitors, and the rows that a status filter
with some flag does not take for a status that it picks. -/
theorem reads_whereText_live (htype : ctx.type = .usersCourses)
    (hfilter : ctx.definition.enrollment = some filter) (hany : filter.flags.any id = true)
    (hrow : LiveStatus v code waiting courseType)
    (hunderstood : EnrollmentColumns.Understood f d v filter (Table.enrollment.col "status")
      (EnrollmentColumns.liveMark (Table.enrollment.col "waiting")
        (Table.course.col "course_type")))
    (hvisitors : noVisitors.SpeltBy f d v.Keeps) :
    f.reads d (d.whereText (Layout.branch ctx .live)) = true ↔
      v.Keeps noVisitors ∧ (filter.flags.all id = true ∨
        ∃ s ∈ EnrollmentStatus.filtered? code (EnrollmentColumns.isMarked waiting courseType),
          filter.picks s = true) := by
  have hmarks := EnrollmentColumns.marks_liveMark hrow.waiting hrow.courseType
  have hmem (e : Expr) : .and e ∈ (Layout.branch ctx .live).restrictions ↔
      e ∈ noVisitors :: liveStatusFilter (some filter) := by
    rw [restrictions_live htype, hfilter, mem_map_and]
  have hspelt : ∀ e ∈ noVisitors :: liveStatusFilter (some filter), e.SpeltBy f d v.Keeps :=
    List.forall_mem_cons.mpr ⟨hvisitors, hunderstood.spelt_statusFilter hmarks⟩
  rw [reads_whereText (Expr.logical_keeps v) fun e he => hspelt e ((hmem e).mp he),
    ← EnrollmentColumns.keepsAll_statusFilter_iff hany hrow.status hmarks]
  simp only [hmem, List.forall_mem_cons]
  rfl

def completedRow : Valuation where
  today := 0
  given
    | .col _ "status" => .int 2
    | .col _ "waiting" => .int 0
    | .col _ "course_type" => .text "elearning"
    | .col _ "userid" => .text "/ada"
    | _ => .nothing

/-- What Athena makes of single comparisons on it. -/
def completedFacts : Facts where
  calendar := ⟨0, fun _ => 0⟩
  time _ := none
  holds ts := ts ∈ [noVisitors, .oneOf (Table.enrollment.col "status") (.int 2) [],
    .eq (Table.course.col "course_type") (.str "elearning"),
    .not (EnrollmentColumns.WaitingMark.condition
      ⟨Table.enrollment.col "waiting", Table.course.col "course_type"⟩)].map
        fun e => Text.tokens (Dialect.athena.render e)

theorem reads_whereText_live_completed : completedFacts.reads .athena
    (Dialect.athena.whereText (Layout.branch (reportOn onlyCompleted) .live)) = true := by
  have hunderstood : EnrollmentColumns.Understood completedFacts .athena completedRow onlyCompleted
      (Table.enrollment.col "status") (EnrollmentColumns.liveMark
        (Table.enrollment.col "waiting") (Table.course.col "course_type")) :=
    { chain_status := .of_tokens (by decide) (by decide)
      chain_waiting := by rintro _ ⟨⟩; exact .of_tokens (by decide) (by decide)
      chain_courseType := by rintro _ ⟨⟩; exact .of_tokens (by decide) (by decide)
      bracketed_status := rfl
      bracketed_mark := by rintro _ ⟨⟩; rfl
      reads_code := by decide
      reads_codes := by rintro _ ⟨⟩; decide
      reads_waiting := by rintro _ ⟨⟩; decide
      reads_courseType := by rintro _ ⟨⟩; decide
      reads_not := by rintro _ ⟨⟩; decide }
  have hvisitors : noVisitors.SpeltBy completedFacts .athena completedRow.Keeps :=
    List.forall_mem_singleton.mpr ⟨.of_tokens (by decide) (by decide), by decide⟩
  exact (reads_whereText_live rfl rfl rfl ⟨rfl, rfl, rfl⟩ hunderstood hvisitors).mpr
    ⟨by decide, .inr ⟨.completed, rfl, rfl⟩⟩

end UsersCourses
end LearningReports
