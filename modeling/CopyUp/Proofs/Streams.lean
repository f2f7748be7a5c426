import CopyUp.Proofs.Asked
import CopyUp.Suite.Stream

/-!
# What streams hold

Passes, skips and the summary go to one stream and failures to the other. Each stream holds the
first bytes of all that was ever meant for it, as many as it may take, so a full stream is noticed
by the lines of its own only. Every line that is cut, and every summary that could not be flushed,
is told to the log once.
-/

namespace CopyUp

/-! ## Streams -/

namespace Sink

/-- The stream of this limit that was given these bytes. -/
def given (limit : Option Nat) (bytes : Bytes) : Sink :=
  ⟨limit, match limit with
    | none => bytes
    | some most => bytes.take most⟩

/-- Some of the text does not fit behind the bytes before it. -/
def Cuts (limit : Option Nat) (before text : Bytes) : Prop :=
  text ≠ [] ∧ ∃ most, limit = some most ∧ most < (before ++ text).length

theorem not_cuts_nil (limit : Option Nat) (before : Bytes) : ¬ Cuts limit before [] :=
  fun cut => cut.1 rfl

/-- A stream holds the first bytes of all that it was given, and tells whether the last text was
cut. -/
theorem write_given (limit : Option Nat) (before text : Bytes) :
    ((given limit before).write text).1 = given limit (before ++ text) ∧
      (((given limit before).write text).2 = true ↔ ¬ Cuts limit before text) := by
  cases limit with
  | none => simp [given, write, room, Cuts]
  | some most =>
      constructor
      · simp only [given, write, room, List.length_take, List.take_append, Sink.mk.injEq, true_and]
        congr 1
        by_cases full : most ≤ before.length
        · have none : min text.length (most - min most before.length) = 0 := by omega
          rw [none, Nat.sub_eq_zero_of_le full]
        · have free : most - min most before.length = most - before.length := by omega
          rw [free]
          by_cases fits : text.length ≤ most - before.length
          · rw [Nat.min_eq_left fits, List.take_length, List.take_of_length_le fits]
          · rw [Nat.min_eq_right (Nat.le_of_not_le fits)]
      · have short : text ≠ [] ↔ 0 < text.length := List.length_pos_iff.symm
        simp only [given, write, room, Cuts, List.length_take, List.length_append, short,
          Option.some.injEq, exists_eq_left', decide_eq_true_eq]
        omega

end Sink

/-! ## Notices -/

namespace Report

variable (report : Report)

def passes : Nat := report.results.countP fun
  | (_, .passed) => true
  | _ => false

def skips : Nat := report.results.countP fun
  | (_, .skipped _) => true
  | _ => false

def failures : Nat := report.results.countP fun
  | (_, .failed _) => true
  | _ => false

def left : Nat := report.planned - report.results.length

def remainder : String := if 0 < report.left then s!", {report.left} not run" else ""

def counted : String :=
  s!"{report.passes} passed, {report.skips} skipped, {report.failures} failed" ++ report.remainder

theorem counts_eq : report.passed = report.passes ∧ report.skipped = report.skips ∧
    report.failed = report.failures := by
  refine ⟨?_, ?_, ?_⟩ <;>
    exact List.countP_congr fun ⟨_, outcome⟩ _ => by cases outcome <;> exact Iff.rfl

end Report

namespace Notice

def outText : Notice → String
  | .finished name .passed => s!"PASS {name}\n"
  | .finished name (.skipped reason) => s!"SKIP {name}: {reason.text}\n"
  | .suiteFinished report => report.counted ++ "\n"
  | _ => ""

def errText : Notice → String
  | .finished name (.failed failure) => s!"FAIL {name}: {failure.message}\n"
  | _ => ""

def outBytes (notice : Notice) : Bytes := .ofText notice.outText

def errBytes (notice : Notice) : Bytes := .ofText notice.errText

end Notice

namespace Console

/-- The console whose streams have these limits, when these notices were told. -/
def told (outLimit errLimit : Option Nat) (flushed : Except IoError Unit) (notices : List Notice) :
    Console :=
  ⟨.given outLimit (notices.flatMap Notice.outBytes),
    .given errLimit (notices.flatMap Notice.errBytes), flushed⟩

variable {outLimit errLimit : Option Nat} {flushed : Except IoError Unit}

/-- The text of a notice is cut on the one stream that it is meant for. -/
def Cuts (outLimit errLimit : Option Nat) (before : List Notice) (notice : Notice) : Prop :=
  match notice with
  | .finished _ (.failed _) => Sink.Cuts errLimit (before.flatMap Notice.errBytes) notice.errBytes
  | _ => Sink.Cuts outLimit (before.flatMap Notice.outBytes) notice.outBytes

/-- What is wrong with a notice behind others: its text was cut, or else it is a summary that could
not be flushed. -/
inductive Trouble (outLimit errLimit : Option Nat) (flushed : Except IoError Unit)
    (before : List Notice) : Notice → IoError → Prop
  | cut {notice : Notice} (cuts : Cuts outLimit errLimit before notice) :
      Trouble outLimit errLimit flushed before notice (.os .enospc)
  | unflushed {report : Report} {error : IoError}
      (whole : ¬ Cuts outLimit errLimit before (.suiteFinished report))
      (failed : flushed = .error error) :
      Trouble outLimit errLimit flushed before (.suiteFinished report) error

inductive Complaint (error : IoError) : Notice → LogLine → Prop
  | status {name : String} {outcome : Outcome} :
      Complaint error (.finished name outcome)
        ⟨.error, s!"failed to write status of {name}: {error.message}"⟩
  | summary {report : Report} :
      Complaint error (.suiteFinished report)
        ⟨.error, s!"failed to write summary: {error.message}"⟩

structure Complains (outLimit errLimit : Option Nat) (flushed : Except IoError Unit)
    (before : List Notice) (notice : Notice) (lines : List LogLine) : Prop where
  once : ∀ error, Trouble outLimit errLimit flushed before notice error →
    ∃ line, Complaint error notice line ∧ lines = [line]
  quiet : (∀ error, ¬ Trouble outLimit errLimit flushed before notice error) → lines = []

theorem summary_eq (report : Report) : summary report = report.counted := by
  have ⟨passed, skipped, failed⟩ := report.counts_eq
  unfold summary Report.counted Report.remainder
  rw [passed, skipped, failed]
  by_cases all : report.left = 0
  · have none : report.notRun = 0 := all
    simp [all, none]
  · have some : 0 < report.left := Nat.pos_of_ne_zero all
    simp only [some, if_true]
    exact if_neg all

theorem outLine_eq (notice : Notice) : (outLine notice).elim [] Bytes.ofText = notice.outBytes := by
  cases notice with
  | started name => rfl
  | suiteFinished report =>
      show Bytes.ofText (summary report ++ "\n") = _
      rw [summary_eq]
      rfl
  | finished name outcome => cases outcome <;> rfl

theorem errLine_eq (notice : Notice) : (errLine notice).elim [] Bytes.ofText = notice.errBytes := by
  cases notice with
  | started | suiteFinished => rfl
  | finished name outcome => cases outcome <;> rfl

/-- A notice is shown by writing its two texts. -/
theorem display_eq (console : Console) (notice : Notice) :
    console.display notice =
      ({ console with
          out := (console.out.write notice.outBytes).1
          err := (console.err.write notice.errBytes).1 },
        if (console.out.write notice.outBytes).2 && (console.err.write notice.errBytes).2 then
          match notice with
          | .suiteFinished _ => console.flushed
          | _ => .ok ()
        else .error (.os .enospc)) := by
  rw [← outLine_eq, ← errLine_eq]
  cases notice <;> rfl

/-- No notice is meant for both streams. -/
theorem cuts_iff {before : List Notice} {notice : Notice} :
    Cuts outLimit errLimit before notice ↔
      Sink.Cuts outLimit (before.flatMap Notice.outBytes) notice.outBytes ∨
        Sink.Cuts errLimit (before.flatMap Notice.errBytes) notice.errBytes := by
  cases notice with
  | started | suiteFinished => exact (or_iff_left (Sink.not_cuts_nil _ _)).symm
  | finished name outcome =>
      cases outcome with
      | passed | skipped => exact (or_iff_left (Sink.not_cuts_nil _ _)).symm
      | failed => exact (or_iff_right (Sink.not_cuts_nil _ _)).symm

theorem not_cuts_started (before : List Notice) (name : String) :
    ¬ Cuts outLimit errLimit before (.started name) := Sink.not_cuts_nil _ _

theorem display_told (outLimit errLimit : Option Nat) (flushed : Except IoError Unit)
    (before : List Notice) (notice : Notice) :
    ((told outLimit errLimit flushed before).display notice).1 =
        told outLimit errLimit flushed (before ++ [notice]) ∧
      ∀ error, ((told outLimit errLimit flushed before).display notice).2 = .error error ↔
        Trouble outLimit errLimit flushed before notice error := by
  have ⟨out, outWhole⟩ :=
    Sink.write_given outLimit (before.flatMap Notice.outBytes) notice.outBytes
  have ⟨err, errWhole⟩ :=
    Sink.write_given errLimit (before.flatMap Notice.errBytes) notice.errBytes
  have whole : (((told outLimit errLimit flushed before).out.write notice.outBytes).2 &&
      ((told outLimit errLimit flushed before).err.write notice.errBytes).2) = true ↔
        ¬ Cuts outLimit errLimit before notice := by
    rw [Bool.and_eq_true, cuts_iff, not_or]
    exact and_congr outWhole errWhole
  rw [display_eq]
  constructor
  · simp only [told, List.flatMap_append, List.flatMap_singleton, ← out, ← err]
  · intro error
    by_cases cuts : Cuts outLimit errLimit before notice
    · rw [if_neg fun shown => whole.1 shown cuts]
      constructor
      · intro same
        cases same
        exact .cut cuts
      · intro trouble
        cases trouble with
        | cut => rfl
        | unflushed uncut => exact absurd cuts uncut
    · rw [if_pos (whole.2 cuts)]
      constructor
      · intro failed
        cases notice with
        | started | finished => contradiction
        | suiteFinished report => exact .unflushed cuts failed
      · intro trouble
        cases trouble with
        | cut cut => exact absurd cut cuts
        | unflushed _ failed => exact failed

theorem complaint_of_trouble {before : List Notice} {notice : Notice} {error : IoError}
    (trouble : Trouble outLimit errLimit flushed before notice error) :
    ∃ line, complaint error notice = some line ∧ Complaint error notice line := by
  cases notice with
  | started name =>
      cases trouble with
      | cut cuts => exact absurd cuts (not_cuts_started before name)
  | finished => exact ⟨_, rfl, .status⟩
  | suiteFinished => exact ⟨_, rfl, .summary⟩

theorem receive_eq (console : Console) (notice : Notice) :
    console.receive notice = ((console.display notice).1,
      match (console.display notice).2 with
      | .ok () => []
      | .error error => (complaint error notice).toList) := by
  unfold receive
  split <;> simp_all

/-- The streams hold what they held and the lines of one notice more, and the log hears of it if
there is something to complain of. -/
theorem receive_told (outLimit errLimit : Option Nat) (flushed : Except IoError Unit)
    (before : List Notice) (notice : Notice) :
    ((told outLimit errLimit flushed before).receive notice).1 =
        told outLimit errLimit flushed (before ++ [notice]) ∧
      Complains outLimit errLimit flushed before notice
        ((told outLimit errLimit flushed before).receive notice).2 := by
  have ⟨next, failed⟩ := display_told outLimit errLimit flushed before notice
  rw [receive_eq, next]
  refine ⟨rfl, fun error trouble => ?_, fun none => ?_⟩
  · have ⟨line, said, worded⟩ := complaint_of_trouble trouble
    rw [(failed error).2 trouble]
    exact ⟨line, worded, congrArg Option.toList said⟩
  · cases result : ((told outLimit errLimit flushed before).display notice).2 with
    | ok => rfl
    | error error => exact absurd ((failed error).1 result) (none error)

/-! ## Whole records -/

theorem follow_append (console : Console) (first second : List Progress) :
    console.follow (first ++ second) =
      (((console.follow first).1.follow second).1,
        (console.follow first).2 ++ ((console.follow first).1.follow second).2) := by
  induction first generalizing console with
  | nil => rfl
  | cons entry rest ih =>
      cases entry with
      | event happened => cases happened <;> simp [follow, ih]
      | notice notice => simp [follow, ih]

theorem follow_told (before : List Notice) (record : List Progress) :
    ((told outLimit errLimit flushed before).follow record).1 =
      told outLimit errLimit flushed (before ++ Progress.notices record) := by
  induction record generalizing before with
  | nil => simp [follow, Progress.notices]
  | cons entry rest ih =>
      cases entry with
      | event happened => cases happened <;> exact ih before
      | notice notice =>
          have next := (receive_told outLimit errLimit flushed before notice).1
          simp only [follow, next, ih, List.append_assoc]
          rfl

/-- What the log is told on account of one more notice. -/
def reaction (console : Console) (record : List Progress) (notice : Notice) : List LogLine :=
  ((console.follow record).1.receive notice).2

theorem complains_reaction (outLimit errLimit : Option Nat) (flushed : Except IoError Unit)
    (record : List Progress) (notice : Notice) :
    Complains outLimit errLimit flushed (Progress.notices record) notice
      ((told outLimit errLimit flushed []).reaction record notice) := by
  rw [reaction, follow_told, List.nil_append]
  exact (receive_told outLimit errLimit flushed _ notice).2

theorem Complaint.unique {error : IoError} {notice : Notice} {line other : LogLine}
    (first : Complaint error notice line) (second : Complaint error notice other) :
    line = other := by
  cases first <;> cases second <;> rfl

theorem Complains.unique {outOther errOther : Option Nat} {again : Except IoError Unit}
    {before : List Notice} {notice : Notice} {lines others : List LogLine}
    (first : Complains outLimit errLimit flushed before notice lines)
    (second : Complains outOther errOther again before notice others)
    (same : ∀ error, Trouble outLimit errLimit flushed before notice error ↔
      Trouble outOther errOther again before notice error) : lines = others := by
  by_cases trouble : ∃ error, Trouble outLimit errLimit flushed before notice error
  · have ⟨error, here⟩ := trouble
    have ⟨line, worded, only⟩ := first.once error here
    have ⟨other, also, alone⟩ := second.once error ((same error).1 here)
    rw [only, alone, worded.unique also]
  · have none := not_exists.1 trouble
    rw [first.quiet none, second.quiet fun error there => none error ((same error).2 there)]

/-- What is wrong with a line of a failure depends on the error stream only. -/
theorem trouble_failed_congr (outOther : Option Nat) (again : Except IoError Unit)
    {before : List Notice} {name : String} {failure : Failure} {error : IoError}
    (trouble : Trouble outLimit errLimit flushed before (.finished name (.failed failure)) error) :
    Trouble outOther errLimit again before (.finished name (.failed failure)) error := by
  cases trouble with
  | cut cuts => exact .cut cuts

/-- What is wrong with any other line does not depend on the error stream. -/
theorem trouble_congr (errOther : Option Nat) {before : List Notice} {notice : Notice}
    {error : IoError} (routed : ∀ name failure, notice ≠ .finished name (.failed failure))
    (trouble : Trouble outLimit errLimit flushed before notice error) :
    Trouble outLimit errOther flushed before notice error := by
  cases trouble with
  | unflushed whole failed => exact .unflushed whole failed
  | cut cuts =>
      cases notice with
      | started | suiteFinished => exact .cut cuts
      | finished name outcome =>
          cases outcome with
          | failed failure => exact absurd rfl (routed name failure)
          | passed | skipped => exact .cut cuts

/-! ## Summaries -/

/-- A number that ends at a blank can be read back. -/
theorem repr_append_inj {first second : Nat} {rest more : List Char}
    (same : first.repr.toList ++ ' ' :: rest = second.repr.toList ++ ' ' :: more) :
    first = second ∧ rest = more := by
  have digits : ∀ number : Nat, ∀ char ∈ number.repr.toList, ¬ char = ' ' := by
    intro number char member blank
    rw [Nat.toList_repr] at member
    have digit := Nat.isDigit_of_mem_toDigits (by decide) (by decide) member
    rw [blank] at digit
    contradiction
  have ⟨alike, _⟩ := split_first same (digits first) rfl (digits second) rfl
  constructor
  · have read := congrArg (Nat.ofDigitChars 10 · 0) alike
    simpa only [Nat.toList_repr, Nat.ofDigitChars_ten_toDigits] using read
  · rw [alike] at same
    exact (List.cons.inj (List.append_cancel_left same)).2

/-- Another blank ends each of the counts, so all of them can be read back. -/
theorem toList_counted (report : Report) :
    report.counted.toList =
      report.passes.repr.toList ++ ' ' :: ("passed, ".toList ++
        (report.skips.repr.toList ++ ' ' :: ("skipped, ".toList ++
          (report.failures.repr.toList ++ ' ' :: ("failed".toList ++
            report.remainder.toList))))) := by
  unfold Report.counted
  simp [toString]

theorem remainder_inj {first second : Report} (same : first.remainder = second.remainder) :
    first.left = second.left := by
  have shape : ∀ report : Report, report.remainder.toList =
      if 0 < report.left then
        ", ".toList ++ (report.left.repr.toList ++ ' ' :: "not run".toList) else [] := by
    intro report
    unfold Report.remainder
    split <;> simp [toString]
  have alike := congrArg String.toList same
  rw [shape, shape] at alike
  by_cases one : 0 < first.left <;> by_cases other : 0 < second.left
  · simp only [one, other, if_true] at alike
    exact (repr_append_inj (List.append_cancel_left alike)).1
  · simp [one, other] at alike
  · simp [one, other] at alike
  · omega

/-- A summary states each count: two reports have one summary if they agree in all of them. -/
theorem summary_inj {first second : Report} :
    summary first = summary second ↔ first.passed = second.passed ∧
      first.skipped = second.skipped ∧ first.failed = second.failed ∧
        first.notRun = second.notRun := by
  constructor
  · intro same
    rw [summary_eq, summary_eq] at same
    have alike := congrArg String.toList same
    rw [toList_counted, toList_counted] at alike
    have ⟨passed, alike⟩ := repr_append_inj alike
    have ⟨skipped, alike⟩ := repr_append_inj (List.append_cancel_left alike)
    have ⟨failed, alike⟩ := repr_append_inj (List.append_cancel_left alike)
    have rest := List.append_cancel_left alike
    have ⟨passes, skips, failures⟩ := first.counts_eq
    have ⟨others, further, more⟩ := second.counts_eq
    rw [passes, skips, failures, others, further, more]
    exact ⟨passed, skipped, failed, remainder_inj (String.toList_inj.1 rest)⟩
  · intro ⟨passed, skipped, failed, notRun⟩
    unfold summary
    rw [passed, skipped, failed, notRun]

/-- Over any limits of the streams and any answer to flushing, and in whatever pieces lines are
written: each stream holds the first bytes of all lines meant for it, the log of the events is kept,
each notice adds one line for its trouble and none without, failures and the other lines do not
disturb each other, and a summary states the counts of its report, the last one only if it is
positive. -/
theorem console_tells (outLimit errLimit : Option Nat) (flushed : Except IoError Unit) :
    let console : Console := ⟨⟨outLimit, []⟩, ⟨errLimit, []⟩, flushed⟩
    (∀ manner, receiveIn manner = receive) ∧
    (∀ record, (console.follow record).1.out =
        .given outLimit ((Progress.notices record).flatMap Notice.outBytes) ∧
      (console.follow record).1.err =
        .given errLimit ((Progress.notices record).flatMap Notice.errBytes)) ∧
    (∀ record event, (console.follow (record ++ [.event event])).2 =
      (console.follow record).2 ++ Trace.logLines [event]) ∧
    (∀ record notice, (console.follow (record ++ [.notice notice])).2 =
        (console.follow record).2 ++ console.reaction record notice ∧
      Complains outLimit errLimit flushed (Progress.notices record) notice
        (console.reaction record notice)) ∧
    (∀ record name failure other again,
      console.reaction record (.finished name (.failed failure)) =
        reaction ⟨⟨other, []⟩, ⟨errLimit, []⟩, again⟩ record (.finished name (.failed failure))) ∧
    (∀ record notice other, (∃ name failure, notice = .finished name (.failed failure)) ∨
      console.reaction record notice =
        reaction ⟨⟨outLimit, []⟩, ⟨other, []⟩, flushed⟩ record notice) ∧
    ∀ report, summary report =
        s!"{report.passed} passed, {report.skipped} skipped, {report.failed} failed" ++
          (if 0 < report.notRun then s!", {report.notRun} not run" else "") ∧
      (report.passed = report.passes ∧ report.skipped = report.skips ∧
        report.failed = report.failures ∧ report.notRun = report.left) ∧
      ∀ other, summary report = summary other ↔ report.passed = other.passed ∧
        report.skipped = other.skipped ∧ report.failed = other.failed ∧
          report.notRun = other.notRun := by
  have fresh : ∀ outLimit errLimit flushed,
      (⟨⟨outLimit, []⟩, ⟨errLimit, []⟩, flushed⟩ : Console) = told outLimit errLimit flushed [] := by
    intro outLimit errLimit flushed
    cases outLimit <;> cases errLimit <;> simp [told, Sink.given]
  simp only [fresh]
  refine ⟨receiveIn_eq, fun record => ?_, fun record event => ?_, fun record notice => ?_,
    fun record name failure other again => ?_, fun record notice other => ?_,
    fun report => ⟨?_, ?_, fun other => summary_inj⟩⟩
  · rw [follow_told]
    exact ⟨rfl, rfl⟩
  · rw [follow_append]
    cases event <;> rfl
  · rw [follow_append]
    refine ⟨?_, complains_reaction outLimit errLimit flushed record notice⟩
    simp [follow, reaction]
  · exact (complains_reaction _ _ _ record _).unique (complains_reaction _ _ _ record _)
      fun error => ⟨trouble_failed_congr _ _, trouble_failed_congr _ _⟩
  · by_cases failing : ∃ name failure, notice = .finished name (.failed failure)
    · exact .inl failing
    · have routed : ∀ name failure, notice ≠ .finished name (.failed failure) :=
        fun name failure same => failing ⟨name, failure, same⟩
      exact .inr ((complains_reaction _ _ _ record _).unique (complains_reaction _ _ _ record _)
        fun error => ⟨trouble_congr _ routed, trouble_congr _ routed⟩)
  · have ⟨passed, skipped, failed⟩ := report.counts_eq
    rw [summary_eq, passed, skipped, failed]
    rfl
  · have ⟨passed, skipped, failed⟩ := report.counts_eq
    exact ⟨passed, skipped, failed, rfl⟩

end Console

end CopyUp
