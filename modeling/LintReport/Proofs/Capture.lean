import LintReport.Proofs.Delivery
import LintReport.Proofs.Offering

/-!
Runs of reports on destinations that take everything.

Captured text and captured bytes never reject a write and keep each one behind what they hold
already (`Capture`). On them a run of reports is determined by the format alone: what is well
formed is made, and each channel ends with what its reports put out, in the order in which they
were posted.
-/

namespace LintReport

open Text

universe u v

/-- A destination that accepts every text and keeps it behind what it holds. -/
class Capture (σ : Type u) [Sink σ] where
  /-- The destination with a text behind all it holds. -/
  extend : σ → String → σ
  write_eq : ∀ (s : σ) (text : String), Sink.write s text = (.ok (), extend s text)
  extend_empty : ∀ s : σ, extend s "" = s
  extend_extend : ∀ (s : σ) (a b : String), extend (extend s a) b = extend s (a ++ b)

instance : Capture String where
  extend captured text := captured ++ text
  write_eq _ _ := rfl
  extend_empty _ := String.append_empty
  extend_extend _ _ _ := String.append_assoc

theorem deliver_byteBuffer (buffer : ByteBuffer) (bytes : List UInt8) :
    ByteDevice.deliver buffer bytes = (.ok (), ⟨buffer.bytes ++ bytes⟩) := by
  by_cases hbytes : bytes = []
  · rw [hbytes, ByteDevice.deliver_nil, List.append_nil]
  · obtain ⟨n, hlength⟩ : ∃ n, bytes.length = n + 1 :=
      Nat.exists_eq_succ_of_ne_zero (by simpa using hbytes)
    have hwrite : ByteDevice.write buffer bytes = (.ok (n + 1), ⟨buffer.bytes ++ bytes⟩) := by
      rw [← hlength]
      rfl
    rw [ByteDevice.deliver_of_taken hbytes hwrite, ← hlength, List.drop_length,
      ByteDevice.deliver_nil]

instance : Capture (Utf8Sink ByteBuffer) where
  extend sink text := ⟨⟨sink.device.bytes ++ utf8 text⟩⟩
  write_eq _ _ := by rw [write_utf8Sink, deliver_byteBuffer]
  extend_empty _ := by rw [utf8_empty, List.append_nil]
  extend_extend _ _ _ := by rw [utf8_append, List.append_assoc]

theorem Capture.accepts {σ : Type u} [Sink σ] [Capture σ] (s : σ) (pieces : List String) :
    Accepts s pieces (extend s (String.join pieces)) := by
  induction pieces generalizing s with
  | nil =>
      rw [String.join_nil, extend_empty]
      exact .nil s
  | cons piece more ih =>
      have hmore := ih (extend s piece)
      rw [extend_extend, ← String.join_cons] at hmore
      exact .cons (write_eq s piece) hmore

/-! ### What a run of reports puts out -/

def ParseFailure.contribution (failure : ParseFailure) : String :=
  if failure.WellFormed then failure.formatted else ""

/-- What posting a report adds to the findings, whatever came before it. -/
def Report.addedToFindings : Report → String
  | finding diagnostic => diagnostic.render ++ "\n"
  | _ => ""

def Report.addedToErrors : Report → String
  | unexpected file message => file ++ ": " ++ message ++ "\n"
  | parseFailure file message line offset text =>
    ParseFailure.contribution ⟨file, message, line, offset, text⟩
  | payload failure => failure.contribution
  | finding _ => ""

def findingsText (reports : List Report) : String :=
  String.join (reports.map Report.addedToFindings)

def errorsText (reports : List Report) : String :=
  String.join (reports.map Report.addedToErrors)

/-- A run makes exactly the well-formed reports, and takes its destinations from one pair of states
to another. -/
def RunsTo {φ : Type u} {ε : Type v} [Sink φ] [Sink ε] (reports : List Report)
    (before after : Outputs φ ε) : Prop :=
  (Outputs.run reports before).1.map (fun outcome => outcome.result.isOk) =
      reports.map (fun report => decide report.WellFormed) ∧
    (Outputs.run reports before).2 = after

theorem Report.added_of_findings {report : Report} (h : report.channel = .findings) :
    (if report.WellFormed then report.formatted else "") = report.addedToFindings ∧
      report.addedToErrors = "" := by
  cases report with
  | finding diagnostic => exact ⟨if_pos (wellFormed_of_failure?_eq_none rfl), rfl⟩
  | _ => cases h

theorem Report.added_of_errors {report : Report} (h : report.channel = .errors) :
    (if report.WellFormed then report.formatted else "") = report.addedToErrors ∧
      report.addedToFindings = "" := by
  cases report with
  | unexpected file message => exact ⟨if_pos (wellFormed_of_failure?_eq_none rfl), rfl⟩
  | parseFailure file message line offset text =>
      refine ⟨?_, rfl⟩
      rw [addedToErrors, ParseFailure.contribution]
      exact if_congr (wellFormed_iff rfl) rfl rfl
  | payload failure =>
      refine ⟨?_, rfl⟩
      rw [addedToErrors, ParseFailure.contribution]
      exact if_congr (wellFormed_iff rfl) rfl rfl
  | finding diagnostic => cases h

theorem Report.post_capture {σ : Type u} [Sink σ] [Capture σ] (report : Report) (s : σ) :
    (report.post s).1.result.isOk = decide report.WellFormed ∧
      (report.post s).2 =
        Capture.extend s (if report.WellFormed then report.formatted else "") := by
  rcases report.wellFormed_or_malformed with hwell | ⟨fault, hfault⟩
  · rw [post_of_accepts hwell (Capture.accepts s report.pieces), if_pos hwell, join_pieces,
      decide_eq_true hwell]
    exact ⟨rfl, rfl⟩
  · rw [post_of_malformed hfault, if_neg hfault.not_wellFormed,
      decide_eq_false hfault.not_wellFormed, Capture.extend_empty]
    exact ⟨rfl, rfl⟩

section

variable {φ : Type u} {ε : Type v} [Sink φ] [Capture φ] [Sink ε] [Capture ε]

theorem Outputs.post_capture (report : Report) (outputs : Outputs φ ε) :
    (outputs.post report).1.result.isOk = decide report.WellFormed ∧
      (outputs.post report).2 =
        ⟨Capture.extend outputs.findings report.addedToFindings,
          Capture.extend outputs.errors report.addedToErrors⟩ := by
  cases hchannel : report.channel with
  | findings =>
      obtain ⟨hfindings, herrors⟩ := Report.added_of_findings hchannel
      obtain ⟨hmade, hafter⟩ := report.post_capture outputs.findings
      rw [post_of_findings hchannel, hafter, hfindings, herrors, Capture.extend_empty]
      exact ⟨hmade, rfl⟩
  | errors =>
      obtain ⟨herrors, hfindings⟩ := Report.added_of_errors hchannel
      obtain ⟨hmade, hafter⟩ := report.post_capture outputs.errors
      rw [post_of_errors hchannel, hafter, hfindings, herrors, Capture.extend_empty]
      exact ⟨hmade, rfl⟩

theorem runsTo_capture (reports : List Report) (outputs : Outputs φ ε) :
    RunsTo reports outputs
      ⟨Capture.extend outputs.findings (findingsText reports),
        Capture.extend outputs.errors (errorsText reports)⟩ := by
  induction reports generalizing outputs with
  | nil => simp [RunsTo, Outputs.run, findingsText, errorsText, Capture.extend_empty]
  | cons report more ih =>
      obtain ⟨hmade, hafter⟩ := Outputs.post_capture report outputs
      obtain ⟨hmore, hend⟩ := ih (outputs.post report).2
      -- The rest of the run starts from destinations that hold what this report added.
      rw [hafter] at hmore hend
      refine ⟨?_, ?_⟩
      · simp only [Outputs.run, List.map_cons, hmade, hafter, hmore]
      · simp only [Outputs.run, hafter, hend, Capture.extend_extend, findingsText, errorsText,
          List.map_cons, String.join_cons]

end

/-- The output law. Whatever reports are posted to captured texts or to captured bytes, in whatever
order, each of the two ends with what it held before and then with what the format lays down for
the reports of its channel, and exactly the malformed reports fail. -/
theorem runsTo_formatted (reports : List Report) (findings errors : String)
    (findingsBytes errorsBytes : List UInt8) :
    let f := findingsText reports
    let e := errorsText reports
    RunsTo reports ⟨findings, errors⟩ ⟨findings ++ f, errors ++ e⟩ ∧
    RunsTo reports ⟨findings, Utf8Sink.mk (ByteBuffer.mk errorsBytes)⟩
      ⟨findings ++ f, ⟨⟨errorsBytes ++ utf8 e⟩⟩⟩ ∧
    RunsTo reports ⟨Utf8Sink.mk (ByteBuffer.mk findingsBytes), errors⟩
      ⟨⟨⟨findingsBytes ++ utf8 f⟩⟩, errors ++ e⟩ ∧
    RunsTo reports
      ⟨Utf8Sink.mk (ByteBuffer.mk findingsBytes), Utf8Sink.mk (ByteBuffer.mk errorsBytes)⟩
      ⟨⟨⟨findingsBytes ++ utf8 f⟩⟩, ⟨⟨errorsBytes ++ utf8 e⟩⟩⟩ :=
  ⟨runsTo_capture reports _, runsTo_capture reports _, runsTo_capture reports _,
    runsTo_capture reports _⟩

end LintReport
