import DirectiveLint.Proofs.Policy.Reevaluation

/-!
# Stricter policies report more

Policies are ordered by strictness: those that let every description pass, the
one that asks for a description, those that ask for one with a pattern, and the
one that flags always.  Two different patterns are not compared, so a stricter
configuration keeps a pattern or flags always.  It may also ask for longer
descriptions.

What a configuration reports is also reported by a stricter one, though it may
be with another message.  The one exception is a least length that is too long to
be written: then the stricter configuration fails where it would report that a
description is too short.  The search for a pattern may break down under the
stricter configuration only, but never on a comment that the other one reports.
Going through all comments ends without reports where it fails on one.
-/

namespace DirectiveLint

/-! ## The order -/

/-- Whether a number is at most another one, where the infinities stand at the ends.  What is not a
number is not compared. -/
inductive Value.IsAtMost : Value → Value → Prop
  | exact {least greatest : Value} {bound limit : Rat} (lower : least.exactValue? = some bound)
      (upper : greatest.exactValue? = some limit) (ordered : bound ≤ limit) :
      IsAtMost least greatest
  | fromBelow {greatest : Value} (comparable : greatest.IsComparable)
      (number : greatest.isNotANumber = false) :
      IsAtMost (.real (.infinite true)) greatest
  | toAbove {least : Value} (comparable : least.IsComparable)
      (number : least.isNotANumber = false) :
      IsAtMost least (.real (.infinite false))

namespace DirectivePolicy

/-- Whether a policy lets every description pass. -/
def LetsPass (policy : DirectivePolicy) : Prop :=
  policy = .disabled ∨ policy = .descriptionFormat none ∨
    policy = .descriptionFormat (some (.plain ""))

/-- Whether a policy is the same as another one or less strict. -/
inductive NoStricterThan : DirectivePolicy → DirectivePolicy → Prop
  | same (policy : DirectivePolicy) : NoStricterThan policy policy
  | letsPass {loose strict : DirectivePolicy} (passes : loose.LetsPass) :
      NoStricterThan loose strict
  | anyDescription {pattern : LooseText} (given : pattern ≠ .plain "") :
      NoStricterThan .allowWithDescription (.descriptionFormat (some pattern))
  | flagged {loose : DirectivePolicy} : NoStricterThan loose .alwaysFlag

variable {loose strict : DirectivePolicy}

theorem LetsPass.not_asksForDescription (passes : loose.LetsPass) :
    ¬ loose.AsksForDescription := by
  rcases passes with rfl | rfl | rfl <;> simp [AsksForDescription]

theorem noStricterThan_iff : loose.NoStricterThan strict ↔
    loose = strict ∨ loose.LetsPass ∨ strict = .alwaysFlag ∨
      loose = .allowWithDescription ∧ strict.requiredPattern?.isSome = true := by
  simp only [Option.isSome_iff_exists, requiredPattern?_eq_some_iff]
  constructor
  · intro ordered
    cases ordered with
    | same => exact Or.inl rfl
    | letsPass passes => exact Or.inr (Or.inl passes)
    | anyDescription given => exact Or.inr (Or.inr (Or.inr ⟨rfl, _, rfl, given⟩))
    | flagged => exact Or.inr (Or.inr (Or.inl rfl))
  · rintro (rfl | passes | rfl | ⟨rfl, pattern, rfl, given⟩)
    · exact .same _
    · exact .letsPass passes
    · exact .flagged
    · exact .anyDescription given

instance (policy : DirectivePolicy) : Decidable policy.LetsPass :=
  inferInstanceAs (Decidable (_ ∨ _ ∨ _))

instance (loose strict : DirectivePolicy) : Decidable (loose.NoStricterThan strict) :=
  decidable_of_iff' _ noStricterThan_iff

theorem NoStricterThan.eq_alwaysFlag (ordered : NoStricterThan .alwaysFlag strict) :
    strict = .alwaysFlag := by
  cases ordered with
  | same => rfl
  | letsPass passes => rcases passes with impossible | impossible | impossible <;> cases impossible
  | flagged => rfl

/-- What asks for a description is only less strict than what does so too or flags always. -/
theorem NoStricterThan.asksForDescription (ordered : loose.NoStricterThan strict)
    (asks : loose.AsksForDescription) : strict.AsksForDescription ∨ strict = .alwaysFlag := by
  cases ordered with
  | same => exact Or.inl asks
  | letsPass passes => exact absurd asks passes.not_asksForDescription
  | anyDescription given => exact Or.inl (Or.inr ⟨_, rfl, given⟩)
  | flagged => exact Or.inr rfl

/-- A pattern is only less strict than itself or what flags always. -/
theorem NoStricterThan.eq_of_pattern {pattern : LooseText} (given : pattern ≠ .plain "")
    (ordered : NoStricterThan (.descriptionFormat (some pattern)) strict) :
    strict = .descriptionFormat (some pattern) ∨ strict = .alwaysFlag := by
  cases ordered with
  | same => exact Or.inl rfl
  | letsPass passes => exact absurd (Or.inr ⟨_, rfl, given⟩) passes.not_asksForDescription
  | flagged => exact Or.inr rfl

end DirectivePolicy

section

variable {least greatest : Value}

theorem Value.IsAtMost.isComparable (ordered : least.IsAtMost greatest) :
    greatest.IsComparable := by
  cases ordered with
  | exact _ upper _ => exact Or.inl ⟨_, upper⟩
  | fromBelow comparable _ => exact comparable
  | toAbove _ _ => exact Or.inr ⟨_, rfl⟩

/-- What is below a least value is below a greater one. -/
theorem IsBelow.mono {count : Nat} (below : IsBelow count least)
    (ordered : least.IsAtMost greatest) : IsBelow count greatest := by
  cases ordered with
  | exact lower upper ordered =>
      rw [isBelow_of_exact lower] at below
      rw [isBelow_of_exact upper]
      rw [← Rat.not_le] at below ⊢
      exact fun reached => below (Rat.le_trans ordered reached)
  | fromBelow _ _ =>
      rcases below with ⟨bound, impossible, _⟩ | impossible <;> cases impossible
  | toAbove _ _ => exact Or.inr rfl

end

/-! ## What is reported -/

namespace Evaluator

/-- Whether an evaluator reports a comment. -/
def reports (evaluator : Evaluator) (comment : Comment) : Bool :=
  match evaluator.evaluate comment with
  | .error _ => false
  | .ok report? => report?.isSome

/-- Whether a diagnostic is what an evaluator reports on a comment. -/
def ReportsAs (evaluator : Evaluator) (comment : Comment) (diagnostic : Diagnostic) : Prop :=
  evaluator.evaluate comment = .ok (some diagnostic)

variable {evaluator : Evaluator} {comment : Comment}

theorem reports_iff :
    evaluator.reports comment = true ↔ ∃ diagnostic, evaluator.ReportsAs comment diagnostic := by
  unfold reports ReportsAs
  cases evaluator.evaluate comment with
  | error failure => simp
  | ok report? => simp [Option.isSome_iff_exists]

theorem reports_of_eq_ok {report? : Option Diagnostic}
    (evaluated : evaluator.evaluate comment = .ok report?) :
    evaluator.reports comment = report?.isSome := by
  unfold reports
  rw [evaluated]

theorem evaluateAll_cons (rest : List Comment) :
    evaluator.evaluateAll (comment :: rest) =
      (evaluator.evaluate comment).bind fun report? =>
        (evaluator.evaluateAll rest).map fun others => report?.toList ++ others := by
  rw [evaluateAll]
  cases evaluator.evaluate comment with
  | error failure => rfl
  | ok report? => cases evaluator.evaluateAll rest <;> rfl

/-- Going through comments gives the reports on those that are reported, one after the other, if no
comment fails. -/
theorem evaluateAll_eq_ok_iff {comments : List Comment} {diagnostics : List Diagnostic} :
    evaluator.evaluateAll comments = .ok diagnostics ↔
      (∀ comment ∈ comments, ∃ report?, evaluator.evaluate comment = .ok report?) ∧
        List.Forall₂ evaluator.ReportsAs (comments.filter evaluator.reports) diagnostics := by
  induction comments generalizing diagnostics with
  | nil => simp [evaluateAll, eq_comm]
  | cons comment rest inductionHypothesis =>
      rw [evaluateAll_cons, List.forall_mem_cons]
      cases here : evaluator.evaluate comment with
      | error failure => simp [Except.bind]
      | ok report? =>
          have later : (evaluator.evaluateAll rest).map (fun others => report?.toList ++ others) =
              .ok diagnostics ↔ ∃ others, evaluator.evaluateAll rest = .ok others ∧
                report?.toList ++ others = diagnostics := by
            cases evaluator.evaluateAll rest <;> simp [Except.map]
          rw [Except.bind, later, List.filter_cons, reports_of_eq_ok here]
          simp only [inductionHypothesis]
          cases report? with
          | none => simp
          | some diagnostic =>
              constructor
              · rintro ⟨others, ⟨succeeds, related⟩, rfl⟩
                exact ⟨⟨⟨_, rfl⟩, succeeds⟩, .cons here related⟩
              · rintro ⟨⟨_, succeeds⟩, _ | ⟨reported, related⟩⟩
                cases here.symm.trans reported
                exact ⟨_, ⟨succeeds, related⟩, rfl⟩

/-- Going through comments fails exactly if one of them does. -/
theorem exists_evaluateAll_eq_error_iff {comments : List Comment} :
    (∃ failure, evaluator.evaluateAll comments = .error failure) ↔
      ∃ comment ∈ comments, ∃ failure, evaluator.evaluate comment = .error failure := by
  induction comments with
  | nil => simp [evaluateAll]
  | cons comment rest inductionHypothesis =>
      rw [evaluateAll_cons, List.exists_mem_cons_iff, ← inductionHypothesis]
      cases evaluator.evaluate comment with
      | error failure => simp [Except.bind]
      | ok report? => cases evaluator.evaluateAll rest <;> simp [Except.bind, Except.map]

end Evaluator

namespace PolicyConfiguration

variable {loose strict : PolicyConfiguration} {found : DirectiveMatch}

/-- A short description is reported, or the least length is too long to be written. -/
theorem Decides.reported_or_failed_of_isBelow {configuration : PolicyConfiguration}
    (asks : (configuration.policyFor found.directive).AsksForDescription)
    (short : IsBelow (descriptionLength found.description) configuration.minimum) :
    (∃ id, configuration.Decides found (.reported id)) ∨
      configuration.Decides found (.failed .tooManyDigits) := by
  cases writable : configuration.minimum.isWritable with
  | true => exact Or.inl ⟨_, .short asks short writable⟩
  | false => exact Or.inr (.unwritable asks short writable)

/-- What the table of a configuration reports is also reported by that of a stricter one, unless
that one has a least length that is too long to be written. -/
theorem Decides.reported_or_failed_of_stricter {mapping strictMapping : Mapping}
    (accepted : ofOptions mapping = .ok loose)
    (strictAccepted : ofOptions strictMapping = .ok strict)
    (policies : (loose.policyFor found.directive).NoStricterThan (strict.policyFor found.directive))
    (least : loose.minimum.IsAtMost strict.minimum) {id : MessageId}
    (decides : loose.Decides found (.reported id)) :
    (∃ other, strict.Decides found (.reported other)) ∨
      strict.Decides found (.failed .tooManyDigits) := by
  have flagged : strict.policyFor found.directive = .alwaysFlag →
      ∃ other, strict.Decides found (.reported other) := by
    intro policy
    by_cases directive : found.directive = .ignore
    · exact ⟨_, .ignore policy directive⟩
    · exact ⟨_, .flagged policy directive⟩
  cases decides with
  | ignore policy _ => exact Or.inl (flagged (policy ▸ policies).eq_alwaysFlag)
  | flagged policy _ => exact Or.inl (flagged (policy ▸ policies).eq_alwaysFlag)
  | short asks short _ =>
      rcases policies.asksForDescription asks with asksToo | always
      · exact Decides.reported_or_failed_of_isBelow asksToo (short.mono least)
      · exact Or.inl (flagged always)
  | @unlike _ _ format given search =>
      rcases (formatFor_eq_some_iff accepted).mp given with ⟨pattern, policy, filled, compiled⟩
      rcases (policy ▸ policies).eq_of_pattern filled with same | always
      · have asks : (strict.policyFor found.directive).AsksForDescription :=
          Or.inr ⟨pattern, same, filled⟩
        have givenToo : strict.formatFor found.directive = some format :=
          (formatFor_eq_some_iff strictAccepted).mpr ⟨pattern, same, filled, compiled⟩
        by_cases short : IsBelow (descriptionLength found.description) strict.minimum
        · exact Decides.reported_or_failed_of_isBelow asks short
        · exact Or.inl ⟨_, .unlike asks ⟨least.isComparable, short⟩ givenToo search⟩
      · exact Or.inl (flagged always)

theorem Decides.not_isWritable_of_tooManyDigits {configuration : PolicyConfiguration}
    (decides : configuration.Decides found (.failed .tooManyDigits)) :
    configuration.minimum.isWritable = false := by
  cases decides with
  | unwritable _ _ tooLong => exact tooLong

/-- Whether a configuration has no stricter policies than another one and does not ask for longer
descriptions. -/
structure NoStricterThan (loose strict : PolicyConfiguration) : Prop where
  policies (directive : Directive) :
    (loose.policyFor directive).NoStricterThan (strict.policyFor directive)
  minimum : loose.minimum.IsAtMost strict.minimum

end PolicyConfiguration

namespace Evaluator

/-- What an evaluator reports is also reported by a stricter one, unless its message would need a
number that is too long to be written. -/
theorem reports_or_failed_of_stricter {loose strict : Evaluator} {mapping strictMapping : Mapping}
    (accepted : PolicyConfiguration.ofOptions mapping = .ok loose.configuration)
    (strictAccepted : PolicyConfiguration.ofOptions strictMapping = .ok strict.configuration)
    (ordered : loose.configuration.NoStricterThan strict.configuration) {comment : Comment}
    (reported : loose.reports comment = true) :
    strict.reports comment = true ∨ strict.evaluate comment = .error .tooManyDigits := by
  have comparable := PolicyConfiguration.isComparable_of_checkMinimum
    (PolicyConfiguration.checkMinimum_of_ofOptions strictAccepted)
  rcases reports_iff.mp reported with ⟨diagnostic, here⟩
  rcases evaluate_eq_some_iff.mp here with ⟨found, id, matched, decides, _⟩
  rcases decides.reported_or_failed_of_stricter accepted strictAccepted
    (ordered.policies found.directive) ordered.minimum with decidesToo | fails
  · exact Or.inl (reports_iff.mpr ((exists_evaluate_eq_some_iff matched).mpr decidesToo))
  · exact Or.inr ((evaluate_eq_error_iff comparable).mpr ⟨found, matched, fails⟩)

/-- Going through comments fails exactly if the table does so on one of them, in one of the two
ways. -/
theorem exists_evaluateAll_eq_error_iff_decides {evaluator : Evaluator}
    (comparable : evaluator.configuration.minimum.IsComparable) {comments : List Comment} :
    (∃ failure, evaluator.evaluateAll comments = .error failure) ↔
      ∃ comment ∈ comments, ∃ found, matchDirective comment = some found ∧
        (evaluator.configuration.Decides found (.failed .disorderedGroup) ∨
          evaluator.configuration.Decides found (.failed .tooManyDigits)) := by
  rw [exists_evaluateAll_eq_error_iff]
  refine exists_congr fun comment => and_congr_right fun _ => ?_
  constructor
  · rintro ⟨failure, failed⟩
    rcases (evaluate_eq_error_iff_cases comparable).mp failed with
      ⟨rfl | rfl, found, matched, fails⟩
    · exact ⟨found, matched, Or.inl fails⟩
    · exact ⟨found, matched, Or.inr fails⟩
  · rintro ⟨found, matched, fails | fails⟩
    · exact ⟨_, (evaluate_eq_error_iff comparable).mpr ⟨found, matched, fails⟩⟩
    · exact ⟨_, (evaluate_eq_error_iff comparable).mpr ⟨found, matched, fails⟩⟩

end Evaluator

/-- For all accepted options, and others that make a configuration no stricter: every comment that
is reported under these is reported under the stricter ones, unless the stricter ones fail on it
because the least length, which belongs to the message, is too long to be written. So the comments
that are reported of any list, apart from those, are among those that the stricter ones report, in
the same order. Going through the list gives the reports on just these comments, unless it fails.
Under the stricter options it fails only where the table asks for a search that breaks down, and
that is not on a comment that the others report, or for a message with such a least length. -/
theorem evaluateAll_stricter {options strictOptions : Value} {loose strict : Evaluator}
    (accepted : PolicyConfiguration.ofValue options = .ok loose.configuration)
    (strictAccepted : PolicyConfiguration.ofValue strictOptions = .ok strict.configuration)
    (ordered : loose.configuration.NoStricterThan strict.configuration) (comments : List Comment) :
    (∀ comment, loose.reports comment = true →
      strict.reports comment = true ∨ strict.evaluate comment = .error .tooManyDigits) ∧
    (∀ comment, strict.evaluate comment = .error .tooManyDigits →
      strict.configuration.minimum.isWritable = false) ∧
    (comments.filter fun comment =>
        loose.reports comment && (strict.evaluate comment).isOk).Sublist
      (comments.filter strict.reports) ∧
    (∀ diagnostics, loose.evaluateAll comments = .ok diagnostics →
      List.Forall₂ loose.ReportsAs (comments.filter loose.reports) diagnostics) ∧
    (∀ diagnostics, strict.evaluateAll comments = .ok diagnostics →
      List.Forall₂ strict.ReportsAs (comments.filter strict.reports) diagnostics) ∧
    ((∃ failure, strict.evaluateAll comments = .error failure) ↔
      ∃ comment ∈ comments, ∃ found, matchDirective comment = some found ∧
        (strict.configuration.Decides found (.failed .disorderedGroup) ∨
          strict.configuration.Decides found (.failed .tooManyDigits))) ∧
    ∀ comment found, matchDirective comment = some found →
      strict.configuration.Decides found (.failed .disorderedGroup) →
      loose.reports comment = false := by
  rcases PolicyConfiguration.exists_ofOptions_of_ofValue accepted with ⟨mapping, made⟩
  rcases PolicyConfiguration.exists_ofOptions_of_ofValue strictAccepted with
    ⟨strictMapping, strictMade⟩
  have comparable := PolicyConfiguration.isComparable_of_checkMinimum
    (PolicyConfiguration.checkMinimum_of_ofOptions strictMade)
  have reportedToo : ∀ comment, loose.reports comment = true →
      strict.reports comment = true ∨ strict.evaluate comment = .error .tooManyDigits :=
    fun _ reported => Evaluator.reports_or_failed_of_stricter made strictMade ordered reported
  refine ⟨reportedToo, ?_, ?_, fun _ evaluated => (Evaluator.evaluateAll_eq_ok_iff.mp evaluated).2,
    fun _ evaluated => (Evaluator.evaluateAll_eq_ok_iff.mp evaluated).2,
    Evaluator.exists_evaluateAll_eq_error_iff_decides comparable, ?_⟩
  · intro comment failed
    rcases (Evaluator.evaluate_eq_error_iff comparable).mp failed with ⟨found, _, fails⟩
    exact fails.not_isWritable_of_tooManyDigits
  · apply List.monotone_filter_right
    intro comment both
    rw [Bool.and_eq_true] at both
    rcases reportedToo comment both.1 with reported | failed
    · exact reported
    · rw [failed] at both
      cases both.2
  · intro comment found matched breaks
    have failed : strict.evaluate comment = .error .disorderedGroup :=
      (Evaluator.evaluate_eq_error_iff comparable).mpr ⟨found, matched, breaks⟩
    rw [← Bool.not_eq_true]
    intro reported
    rcases reportedToo comment reported with reported | tooLong
    · rcases Evaluator.reports_iff.mp reported with ⟨diagnostic, here⟩
      cases failed.symm.trans here
    · cases failed.symm.trans tooLong

/-- Evaluators under two options are at hand where a test on them succeeds. -/
theorem Evaluator.exists_of_test (options strictOptions : Value)
    (test : Evaluator → Evaluator → Bool)
    (succeeds : ((PolicyConfiguration.ofValue options).toOption.any fun loose =>
      (PolicyConfiguration.ofValue strictOptions).toOption.any fun strict =>
        test ⟨loose, .error, "ban-ts-comment"⟩ ⟨strict, .warning, "ban-ts-comment"⟩) = true) :
    ∃ loose strict : Evaluator,
      PolicyConfiguration.ofValue options = .ok loose.configuration ∧
      PolicyConfiguration.ofValue strictOptions = .ok strict.configuration ∧
      test loose strict = true := by
  rcases (Option.any_eq_true _ _).mp succeeds with ⟨loose, found, succeeds⟩
  rcases (Option.any_eq_true _ _).mp succeeds with ⟨strict, foundToo, succeeds⟩
  exact ⟨⟨loose, _, _⟩, ⟨strict, _, _⟩, Except.eq_ok_of_toOption_eq_some found,
    Except.eq_ok_of_toOption_eq_some foundToo, succeeds⟩

/-- Whether configurations are in order, if their least lengths are the given ones. -/
def PolicyConfiguration.areInOrder (loose strict : PolicyConfiguration) (bound limit : Rat) :
    Bool :=
  decide (∀ directive ∈ Directive.all,
    (loose.policyFor directive).NoStricterThan (strict.policyFor directive)) &&
    decide (bound ≤ limit ∧ loose.minimum.exactValue? = some bound ∧
      strict.minimum.exactValue? = some limit)

theorem PolicyConfiguration.noStricterThan_of_areInOrder {loose strict : PolicyConfiguration}
    {bound limit : Rat} (inOrder : loose.areInOrder strict bound limit = true) :
    loose.NoStricterThan strict := by
  simp only [areInOrder, Bool.and_eq_true, decide_eq_true_eq] at inOrder
  rcases inOrder with ⟨policies, ordered, lower, upper⟩
  exact ⟨fun directive => policies directive (mem_all directive), .exact lower upper ordered⟩

/-- A pattern for one directive, a flag on another, and a least length that is no integer. -/
def strictOptions : Value :=
  .object [("ts-expect-error", .object [("descriptionFormat", .text "^: TS\\d+")]),
    ("ts-check", .boolean true), ("minimumDescriptionLength", .real (.finite false 21 (-1)))]

/-- A comment with a `check` directive, a short description, a long one that fits no pattern, and
one that does. -/
def fourComments : List Comment :=
  [⟨.line, " @ts-check", ⟨0, 12, ⟨"a.ts", 1, 1⟩, ⟨"a.ts", 1, 13⟩⟩⟩, expectErrorComment " x",
    expectErrorComment " as a reader would expect",
    expectErrorComment ": TS2345 because of the host"]

/-- Of four comments one is reported, and three are under stricter options. -/
theorem evaluateAll_stricter_fourComments :
    ∃ loose strict : Evaluator,
      PolicyConfiguration.ofValue (.object []) = .ok loose.configuration ∧
      PolicyConfiguration.ofValue strictOptions = .ok strict.configuration ∧
      loose.configuration.NoStricterThan strict.configuration ∧
      fourComments.map loose.reports = [false, true, false, false] ∧
      fourComments.map strict.reports = [true, true, true, false] ∧
      (fourComments.filter fun comment =>
          loose.reports comment && (strict.evaluate comment).isOk).Sublist
        (fourComments.filter strict.reports) := by
  rcases Evaluator.exists_of_test (.object []) strictOptions
    (fun loose strict =>
      loose.configuration.areInOrder strict.configuration 3 (21 / 2) &&
        decide (fourComments.map loose.reports = [false, true, false, false] ∧
          fourComments.map strict.reports = [true, true, true, false]))
    (by decide +kernel) with ⟨loose, strict, accepted, strictAccepted, succeeds⟩
  rw [Bool.and_eq_true, decide_eq_true_eq] at succeeds
  have ordered := PolicyConfiguration.noStricterThan_of_areInOrder succeeds.1
  exact ⟨loose, strict, accepted, strictAccepted, ordered, succeeds.2.1, succeeds.2.2,
    (evaluateAll_stricter accepted strictAccepted ordered fourComments).2.2.1⟩

/-- An `ignore` directive, and a description on which the search for a pattern breaks down. -/
def breakingComments : List Comment :=
  [⟨.line, " @ts-ignore", ⟨0, 13, ⟨"a.ts", 1, 1⟩, ⟨"a.ts", 1, 14⟩⟩⟩, expectErrorComment "bcbbb"]

/-- A comment can be reported, but not under stricter options, where evaluating it fails.  And going
through all comments can report something, but end without reports under stricter options. -/
theorem evaluateAll_stricter_failures :
    (∃ loose strict : Evaluator,
      PolicyConfiguration.ofValue (.object []) = .ok loose.configuration ∧
      PolicyConfiguration.ofValue longOptions = .ok strict.configuration ∧
      loose.configuration.NoStricterThan strict.configuration ∧
      loose.reports (expectErrorComment " x") = true ∧
      strict.reports (expectErrorComment " x") = false) ∧
    ∃ loose strict : Evaluator, ∃ diagnostic failure,
      PolicyConfiguration.ofValue (.object []) = .ok loose.configuration ∧
      PolicyConfiguration.ofValue disorderedOptions = .ok strict.configuration ∧
      loose.configuration.NoStricterThan strict.configuration ∧
      loose.evaluateAll breakingComments = .ok [diagnostic] ∧
      strict.evaluateAll breakingComments = .error failure := by
  constructor
  · rcases Evaluator.exists_of_test (.object []) longOptions
      (fun loose strict =>
        loose.configuration.areInOrder strict.configuration 3 ((Number.leastTooLong : Int) : Rat) &&
          decide (loose.reports (expectErrorComment " x") = true ∧
            strict.reports (expectErrorComment " x") = false))
      (by decide +kernel) with ⟨loose, strict, accepted, strictAccepted, succeeds⟩
    rw [Bool.and_eq_true, decide_eq_true_eq] at succeeds
    exact ⟨loose, strict, accepted, strictAccepted,
      PolicyConfiguration.noStricterThan_of_areInOrder succeeds.1, succeeds.2⟩
  · rcases Evaluator.exists_of_test (.object []) disorderedOptions
      (fun loose strict => loose.configuration.areInOrder strict.configuration 3 3 &&
        decide ((loose.evaluateAll breakingComments).toOption.map List.length = some 1 ∧
          (strict.evaluateAll breakingComments).isOk = false))
      (by decide +kernel) with ⟨loose, strict, accepted, strictAccepted, succeeds⟩
    rw [Bool.and_eq_true, decide_eq_true_eq] at succeeds
    have ordered := PolicyConfiguration.noStricterThan_of_areInOrder succeeds.1
    rcases Option.map_eq_some_iff.mp succeeds.2.1 with ⟨diagnostics, found, one⟩
    rcases List.length_eq_one_iff.mp one with ⟨diagnostic, rfl⟩
    cases failed : strict.evaluateAll breakingComments with
    | ok diagnostics =>
        rw [failed] at succeeds
        cases succeeds.2.2
    | error failure =>
        exact ⟨loose, strict, diagnostic, failure, accepted, strictAccepted, ordered,
          Except.eq_ok_of_toOption_eq_some found, failed⟩

end DirectiveLint
