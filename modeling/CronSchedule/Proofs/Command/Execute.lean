import CronSchedule.Command.Report
import CronSchedule.Proofs.Schedule.Read
import CronSchedule.Zone.Database

/-!
# All commands go the same way

A command other than `check` reads its expression, then the instant that it is about, and
then reports (`execute_eq`). So it fails on the one or on the other, and on the expression
first (`execute_eq_error`), while `check` never fails and tells whether the others would get
past the expression, in its document as well (`Report.get?_toJson_check`). Of the present
moment nothing is seen where an instant is given, and the list of fire times is cut short by
its count or by the end of the schedule (`nextAfter_of_length_lt`). All of this makes up
`Account`, which every command in every context has (`execute_failures_and_reports`).
-/

namespace CronSchedule

namespace Schedule

variable {s : Schedule} {after : Instant} {count : Nat}

theorem length_upcoming_le : (s.upcoming after count).length ≤ count := by
  fun_induction upcoming s after count with
  | case1 => exact Nat.le_refl 0
  | case2 after count first hnext ih => exact Nat.succ_le_succ ih
  | case3 => exact Nat.zero_le _

/-- **Fewer fire times are listed only where no other follows the last one.** -/
theorem nextAfter_of_length_lt (h : (s.upcoming after count).length < count) :
    s.nextAfter ((s.upcoming after count).getLastD after) = none := by
  fun_induction upcoming s after count with
  | case1 => exact absurd h (Nat.lt_irrefl 0)
  | case2 after count first hnext ih =>
    rw [List.getLastD_cons]
    exact ih (Nat.lt_of_succ_lt_succ h)
  | case3 after count hnext => exact hnext

end Schedule

/-- **The document of a `check` has a member for each value that there is**, and no other
member for an error or a position. -/
theorem Report.get?_toJson_check (text : String) (valid : Bool) (error : Option String)
    (position : Option Nat) :
    (Report.check text valid error position).toJson.get? "expression" = some (.string text) ∧
    (Report.check text valid error position).toJson.get? "valid" = some (.bool valid) ∧
    (Report.check text valid error position).toJson.get? "error" = error.map .string ∧
    (Report.check text valid error position).toJson.get? "position" =
      position.map fun position : Nat => .int position := by
  cases error <;> cases position <;> exact ⟨rfl, rfl, rfl, rfl⟩

namespace Command

variable {context : Context} {command : Command} {text : String} {s : Schedule} {t : Instant}

/-! ## What a command is given -/

/-- The expression that a command asks about. -/
def expression : Command → String
  | check expression | explain expression | next expression _ _ | previous expression _
  | satisfied expression _ | firstMiss expression _ => expression

/-- The instant that a command asks about, as far as the user gives one. -/
def instant? : Command → Option String
  | next _ after _ | firstMiss _ after => after
  | previous _ before => before
  | satisfied _ instant => some instant
  | check _ | explain _ => none

/-- How many fire times the user wants to see. -/
def count? : Command → Option Nat
  | next _ _ count => count
  | _ => none

/-- The command asks only whether its expression is one. -/
def IsCheck : Command → Prop
  | check _ => True
  | _ => False

instance (command : Command) : Decidable command.IsCheck :=
  match command with
  | check _ => .isTrue trivial
  | explain _ | next _ _ _ | previous _ _ | satisfied _ _ | firstMiss _ _ => .isFalse id

/-- What a command reports of a schedule and an instant. -/
def report (context : Context) (s : Schedule) (t : Instant) : Command → Report
  | check _ => .check s.text true none none
  | explain _ => .explain s.text s.zone.name s.summary
  | next _ _ count => .next s.text s.zone.name t (s.upcoming t (count.getD context.defaultCount))
  | previous _ _ => .previous s.text s.zone.name t (s.previousBefore t)
  | satisfied _ _ => .satisfied s.text s.zone.name t (s.isSatisfiedBy t)
  | firstMiss _ _ => .firstMiss s.text s.zone.name t (s.firstMissAfter t)

/-! ## What becomes of it -/

/-- **The one way that all commands but `check` go**: the expression, the instant, the
report. -/
theorem execute_eq (h : ¬ command.IsCheck) : execute context command = (do
    let s ← context.schedule command.expression
    let t ← context.instantOrNow command.instant?
    return command.report context s t) := by
  cases command with
  | check expression => exact absurd trivial h
  | explain expression | next expression after count | previous expression before
  | satisfied expression instant | firstMiss expression after => rfl

theorem schedule_eq_ok : context.schedule text = .ok s ↔
    Schedule.read context.yearLimit context.zone text = .ok s := by
  rw [Context.schedule]
  cases Schedule.read context.yearLimit context.zone text <;> simp [Except.mapError]

theorem schedule_eq_error {error : CommandError} : context.schedule text = .error error ↔
    ∃ e, Schedule.read context.yearLimit context.zone text = .error e ∧
      error = .expression text e := by
  rw [Context.schedule]
  cases Schedule.read context.yearLimit context.zone text <;> simp [Except.mapError, eq_comm]

theorem instantOrNow_eq_error {given : Option String} {error : CommandError} :
    context.instantOrNow given = .error error ↔
      ∃ text ∈ given, ∃ e, Instant.read context.zone text = .error e ∧ error = .instant e := by
  cases given with
  | none => simp [Context.instantOrNow]
  | some text =>
    simp only [Context.instantOrNow, Context.instant, Option.mem_some_iff, exists_eq_left']
    cases Instant.read context.zone text <;> simp [Except.mapError, eq_comm]

/-- **A command fails on its expression, or else on its instant.** -/
theorem execute_eq_error (h : ¬ command.IsCheck) {error : CommandError} :
    execute context command = .error error ↔
      context.schedule command.expression = .error error ∨
        ∃ s, context.schedule command.expression = .ok s ∧
          context.instantOrNow command.instant? = .error error := by
  rw [execute_eq h, bind_eq_error]
  refine or_congr_right (exists_congr fun s => and_congr_right fun _ => ?_)
  rw [bind_eq_error]
  exact or_iff_left fun ⟨t, _, heq⟩ => nomatch heq

/-- Exactly when a command gets past its expression, the expression is one. -/
theorem forall_execute_ne_iff (h : ¬ command.IsCheck) :
    (∀ text e, execute context command ≠ .error (.expression text e)) ↔
      ∃ s, Schedule.read context.yearLimit context.zone command.expression = .ok s := by
  constructor
  · intro hall
    cases hread : Schedule.read context.yearLimit context.zone command.expression with
    | ok s => exact ⟨s, rfl⟩
    | error e =>
      have hfails := (execute_eq_error h).2 (.inl (schedule_eq_error.2 ⟨e, hread, rfl⟩))
      exact absurd hfails (hall command.expression e)
  · rintro ⟨s, hs⟩ text e hfails
    rcases (execute_eq_error h).1 hfails with hfails | ⟨-, -, hfails⟩
    · rw [schedule_eq_ok.2 hs] at hfails
      cases hfails
    · obtain ⟨_, _, _, _, heq⟩ := instantOrNow_eq_error.1 hfails
      cases heq

/-- The text of a schedule is the normalized one. -/
theorem text_of_read {yearLimit : Nat} {zone : Zone}
    (h : Schedule.read yearLimit zone text = .ok s) :
    s.text = String.ofList (Expression.normalize text.toList) := by
  simp only [Schedule.read, Schedule.ofNormalized, bind_eq_ok] at h
  obtain ⟨_, _, _, _, _, _, h⟩ := h
  split at h
  · cases h
  · rw [pure_eq_ok.1 h]

/-- What is said about a wrong expression: what is wrong with it, and where. -/
def complaint (e : ExpressionError) : String :=
  s!"Invalid cron expression: {e.fault.message} (at position {e.position})"

/-- `check` has an answer always: that there is such a schedule, or why there is none. -/
theorem exists_execute_check (context : Context) (expression : String) :
    ∃ text valid error position,
      execute context (.check expression) = .ok (.check text valid error position) ∧
      (valid = true ↔ ∃ s, Schedule.read context.yearLimit context.zone expression = .ok s) ∧
      (valid = true →
        text = String.ofList (Expression.normalize expression.toList) ∧
          error = none ∧ position = none) ∧
      (valid = false →
        ∃ e, Schedule.read context.yearLimit context.zone expression = .error e ∧
          text = expression ∧ error = some (complaint e) ∧ position = some e.position) := by
  cases hread : Schedule.read context.yearLimit context.zone expression with
  | ok s =>
    refine ⟨s.text, true, none, none, by simp only [execute, hread], ?_, fun _ => ?_, nofun⟩
    · exact iff_of_true rfl ⟨s, rfl⟩
    · exact ⟨text_of_read hread, rfl, rfl⟩
  | error e =>
    refine ⟨expression, false, some e.message, some e.position, by simp only [execute, hread],
      ?_, nofun, fun _ => ?_⟩
    · exact iff_of_false Bool.false_ne_true fun ⟨_, hs⟩ => nomatch hs
    · exact ⟨e, rfl, rfl, rfl, rfl⟩

/-- Where an instant is given, the present moment is not looked at. -/
theorem execute_now (h : command.instant?.isSome = true) (now : Instant) :
    execute { context with now := now } command = execute context command := by
  obtain ⟨text, htext⟩ := Option.isSome_iff_exists.1 h
  have hcheck : ¬ command.IsCheck := by
    cases command with
    | check expression => exact absurd htext nofun
    | explain | next | previous | satisfied | firstMiss => exact id
  rw [execute_eq hcheck, execute_eq hcheck, htext]
  cases command <;> rfl

/-- **When a command fails.** -/
theorem exists_execute_eq_error_iff : (∃ error, execute context command = .error error) ↔
    ¬ command.IsCheck ∧
      ((∃ e, Schedule.read context.yearLimit context.zone command.expression = .error e) ∨
        ∃ text ∈ command.instant?, ∃ e, Instant.read context.zone text = .error e) := by
  by_cases hcheck : command.IsCheck
  · refine iff_of_false (fun ⟨error, herror⟩ => ?_) fun h => h.1 hcheck
    cases command with
    | check expression =>
      obtain ⟨_, _, _, _, hreport, -⟩ := exists_execute_check context expression
      cases hreport.symm.trans herror
    | explain | next | previous | satisfied | firstMiss => exact hcheck
  · simp only [execute_eq_error hcheck, schedule_eq_error, schedule_eq_ok, instantOrNow_eq_error,
      not_false_eq_true, hcheck, true_and]
    constructor
    · rintro ⟨error, ⟨e, he, -⟩ | ⟨-, -, text, htext, e, he, -⟩⟩
      · exact .inl ⟨e, he⟩
      · exact .inr ⟨text, htext, e, he⟩
    · intro hbad
      -- With both at fault the expression is, so the instant counts only after a good one.
      cases hread : Schedule.read context.yearLimit context.zone command.expression with
      | error e => exact ⟨.expression command.expression e, .inl ⟨e, rfl, rfl⟩⟩
      | ok s =>
        rcases hbad with ⟨e, he⟩ | ⟨text, htext, e, he⟩
        · cases hread.symm.trans he
        · exact ⟨.instant e, .inr ⟨s, rfl, text, htext, e, he, rfl⟩⟩

/-- **Fire times are reported as the schedule of the expression has them.** -/
theorem upcoming_of_execute {name : String} {fireTimes : List Instant}
    (h : execute context command = .ok (.next text name t fireTimes)) :
    ∃ s, Schedule.read context.yearLimit context.zone command.expression = .ok s ∧
      fireTimes = s.upcoming t (command.count?.getD context.defaultCount) := by
  by_cases hcheck : command.IsCheck
  · cases command with
    | check expression =>
      obtain ⟨_, _, _, _, hreport, -⟩ := exists_execute_check context expression
      cases hreport.symm.trans h
    | explain | next | previous | satisfied | firstMiss => exact hcheck.elim
  · rw [execute_eq hcheck] at h
    obtain ⟨s, hs, h⟩ := bind_eq_ok.1 h
    obtain ⟨start, -, h⟩ := bind_eq_ok.1 h
    cases command with
    | next expression after count =>
      cases h
      exact ⟨s, schedule_eq_ok.1 hs, rfl⟩
    | check | explain | previous | satisfied | firstMiss => cases h

/-- **What becomes of a command**: how it can fail, what `check` says about its expression, and
what its answer depends on. -/
structure Account (context : Context) (command : Command) : Prop where
  /-- It fails exactly when it is not `check` and its expression or the instant that it is
  given cannot be read. -/
  fails_iff : (∃ error, execute context command = .error error) ↔ ¬ command.IsCheck ∧
    ((∃ e, Schedule.read context.yearLimit context.zone command.expression = .error e) ∨
      ∃ text ∈ command.instant?, ∃ e, Instant.read context.zone text = .error e)
  /-- If the expression cannot be read, that is the failure, whatever the instant. -/
  expression_first : ¬ command.IsCheck →
    ∀ e, Schedule.read context.yearLimit context.zone command.expression = .error e →
      execute context command = .error (.expression command.expression e)
  /-- If only the instant cannot be read, that is the failure. -/
  instant_second : ¬ command.IsCheck →
    ∀ s, Schedule.read context.yearLimit context.zone command.expression = .ok s →
      ∀ text ∈ command.instant?, ∀ e, Instant.read context.zone text = .error e →
        execute context command = .error (.instant e)
  /-- `check` has an answer for the expression. It calls it valid exactly when every other
  command gets past it. Then it shows the normalized text and no error or position,
  otherwise the text as it was typed with the reader's complaint and position. -/
  check_reports : ∃ text valid error position,
    execute context (.check command.expression) = .ok (.check text valid error position) ∧
    (∀ other : Command, ¬ other.IsCheck → other.expression = command.expression →
      (valid = true ↔ ∀ text e, execute context other ≠ .error (.expression text e))) ∧
    (valid = true →
      text = String.ofList (Expression.normalize command.expression.toList) ∧
        error = none ∧ position = none) ∧
    (valid = false →
      ∃ e, Schedule.read context.yearLimit context.zone command.expression = .error e ∧
        text = command.expression ∧ error = some (complaint e) ∧ position = some e.position)
  /-- Where an instant is given, the present moment makes no difference. -/
  now_irrelevant : command.instant?.isSome = true →
    ∀ now, execute { context with now := now } command = execute context command
  /-- No more fire times are listed than are wanted, and fewer only where the schedule of the
  expression ends with them. -/
  fireTimes_end : ∀ text name start fireTimes,
    execute context command = .ok (.next text name start fireTimes) →
      ∃ s, Schedule.read context.yearLimit context.zone command.expression = .ok s ∧
        fireTimes.length ≤ command.count?.getD context.defaultCount ∧
        (fireTimes.length < command.count?.getD context.defaultCount →
          s.nextAfter (fireTimes.getLastD start) = none)

/-- **Every command in every context is accounted for.** -/
theorem execute_failures_and_reports (context : Context) (command : Command) :
    Account context command where
  fails_iff := exists_execute_eq_error_iff
  expression_first hcheck e he :=
    (execute_eq_error hcheck).2 (.inl (schedule_eq_error.2 ⟨e, he, rfl⟩))
  instant_second hcheck s hs text htext e he :=
    (execute_eq_error hcheck).2 (.inr ⟨s, schedule_eq_ok.2 hs,
      instantOrNow_eq_error.2 ⟨text, htext, e, he, rfl⟩⟩)
  check_reports := by
    obtain ⟨text, valid, error, position, hreport, hvalid, hok, herror⟩ :=
      exists_execute_check context command.expression
    refine ⟨text, valid, error, position, hreport, fun other hother hsame => ?_, hok, herror⟩
    rw [hvalid, forall_execute_ne_iff hother, hsame]
  now_irrelevant := execute_now
  fireTimes_end text name start fireTimes h := by
    obtain ⟨s, hs, rfl⟩ := upcoming_of_execute h
    exact ⟨s, hs, Schedule.length_upcoming_le, Schedule.nextAfter_of_length_lt⟩

/-- New York in 2025, where three fire times are listed. -/
def inNewYork : Context :=
  ⟨Field.yearLimit 2025, .americaNewYork, 3, ⟨0, 0⟩⟩

/-- Three fields are checked, which is too few. They are to blame although `never` is no instant
either, which shows with six fields. Three fire times are asked for, but the only year that is
named has one. -/
theorem execute_failures_and_reports_newYear :
    (execute inNewYork (.check "0 0 0") = .ok (.check "0 0 0" false
        (some "Invalid cron expression: Unexpected end of expression. (at position 5)")
        (some 5)) ∧
      ∃ text e, execute inNewYork (.explain "0 0 0") = .error (.expression text e)) ∧
    (execute inNewYork (.satisfied "0 0 0" "never") =
        .error (.expression "0 0 0" ⟨.tooFewFields, 5⟩) ∧
      execute inNewYork (.satisfied "0 0 0 1 1 ?" "never") =
        .error (.instant (.unrecognized "never"))) ∧
    ∃ s text name start,
      Schedule.read inNewYork.yearLimit inNewYork.zone "0 0 0 1 1 ? 2030" = .ok s ∧
      execute inNewYork (.next "0 0 0 1 1 ? 2030" (some "2029-07-01") none) =
        .ok (.next text name start [.ofSeconds 1893474000]) ∧
      [Instant.ofSeconds 1893474000].length < 3 ∧
      s.nextAfter (.ofSeconds 1893474000) = none := by
  refine ⟨?_, ?_, ?_⟩
  · have hcheck : execute inNewYork (.check "0 0 0") = .ok (.check "0 0 0" false
        (some "Invalid cron expression: Unexpected end of expression. (at position 5)")
        (some 5)) := by
      decide +kernel
    obtain ⟨_, _, _, _, hreport, hvalid, -, -⟩ :=
      (execute_failures_and_reports inNewYork (.explain "0 0 0")).check_reports
    obtain ⟨-, rfl, -, -⟩ := Report.check.inj (Except.ok.inj (hreport.symm.trans hcheck))
    have hstuck := mt (hvalid (.explain "0 0 0") id rfl).2 Bool.false_ne_true
    simp only [ne_eq, not_forall, not_not] at hstuck
    exact ⟨hcheck, hstuck⟩
  · have hnever : Instant.read inNewYork.zone "never" = .error (.unrecognized "never") := by
      decide +kernel
    have hwrong : Schedule.read inNewYork.yearLimit inNewYork.zone "0 0 0" =
        .error ⟨.tooFewFields, 5⟩ := by
      decide +kernel
    obtain ⟨s, hs, -⟩ := exists_of_bind_eq_some
      (by decide +kernel : (Schedule.read inNewYork.yearLimit inNewYork.zone
        "0 0 0 1 1 ?").toOption.bind (fun s => some s.text) = some "0 0 0 1 1 ?")
    have hboth := execute_failures_and_reports inNewYork (.satisfied "0 0 0" "never")
    have hone := execute_failures_and_reports inNewYork (.satisfied "0 0 0 1 1 ?" "never")
    exact ⟨hboth.expression_first id _ hwrong, hone.instant_second id s hs _ rfl _ hnever⟩
  · have h : execute inNewYork (.next "0 0 0 1 1 ? 2030" (some "2029-07-01") none) =
        .ok (.next "0 0 0 1 1 ? 2030" "America/New_York" (.ofSeconds 1877572800)
          [.ofSeconds 1893474000]) := by
      decide +kernel
    have hshort : [Instant.ofSeconds 1893474000].length < 3 := by decide
    have haccount := execute_failures_and_reports inNewYork
      (.next "0 0 0 1 1 ? 2030" (some "2029-07-01") none)
    obtain ⟨s, hs, -, hend⟩ := haccount.fireTimes_end _ _ _ _ h
    exact ⟨s, _, _, _, hs, h, hshort, hend hshort⟩

end Command

end CronSchedule
