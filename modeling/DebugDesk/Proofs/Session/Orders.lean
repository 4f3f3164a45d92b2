/-
  What a transport was handed reads back.

  Whoever listens on a transport gets payloads, decodes them as requests, and reads the text of
  each request as a command.  None of that ever fails, at any desk and at any moment of any
  session, and the command that is read is the one that the desk was told to send when it made the
  attempt, without the blanks at the end of an expression.  Sessions may exchange snapshots and
  work on boards directly: neither sends anything.

  The crux is where the command comes from.  For every attempt there is a call of the session that
  ordered it at the desk as it was then (`exists_call_of_mem_attempts`); and whatever was ordered
  is written as a command's text, which reads back.
-/
import DebugDesk.Proofs.Command.ReadBack
import DebugDesk.Proofs.Desk.Orders
import DebugDesk.Proofs.Json.Wire
import DebugDesk.Proofs.Session
import DebugDesk.Sample

namespace DebugDesk

/-! ## Requests -/

/-- What an attempt handed to the transport is decoded as its request, whose text is read as a
    command. -/
structure Attempt.ReadsBack (a : Attempt) (command : Command) : Prop where
  request : Request.ofJson? a.request.toPayload = some a.request
  command : a.request.command = .ok command.trimmed

/-- **What an attempt says reads back.** -/
theorem Attempt.Says.readsBack {a : Attempt} {operator : String} {command : Command}
    (h : a.Says operator command) : a.ReadsBack command where
  request := a.request.carries_payload.read_eq
  command := by
    have hcmd : a.request.cmd = command.text := by
      rw [h]
      rfl
    rw [Request.command, hcmd]
    exact command.parse_text

/-- **A recorded transport is read in full** if all that it delivered reads back: in order, what is
    told whom. -/
theorem Attempt.exists_allTold {attempts : List Attempt}
    (h : ∀ a ∈ attempts, ∃ command, a.ReadsBack command) :
    ∃ told, Request.allTold? (attempts.map (·.request.toPayload)) = some told ∧
      List.Forall₂ (fun a t => a.request.worker = t.1 ∧ a.request.command = .ok t.2)
        attempts told := by
  induction attempts with
  | nil => exact ⟨[], rfl, .nil⟩
  | cons a attempts ih =>
    obtain ⟨⟨command, hread⟩, hrest⟩ := List.forall_mem_cons.mp h
    obtain ⟨told, htold, hpairs⟩ := ih hrest
    have hfirst : Request.told? a.request.toPayload = some (a.request.worker, command.trimmed) := by
      rw [Request.told?, hread.request, Option.bind_eq_bind, Option.bind_some, hread.command]
      rfl
    refine ⟨(a.request.worker, command.trimmed) :: told, ?_, .cons ⟨rfl, hread.command⟩ hpairs⟩
    rw [Request.allTold?] at htold ⊢
    rw [List.map_cons, List.mapM_cons, hfirst, htold]
    rfl

/-- Merging sends nothing. -/
theorem Desk.attempts_merge (d : Desk) (operator : String) (s : Snapshot) :
    (d.merge operator s).attempts = d.attempts := by
  unfold Desk.merge
  split <;> rfl

namespace Session

variable {ι : Type} [DecidableEq ι]

/-! ## Where attempts come from -/

theorem run_append_move (madeUp : ι → String) (settings : ι → Settings) (moves : List (Move ι))
    (m : Move ι) : run madeUp settings (moves ++ [m]) = (run madeUp settings moves).step m := by
  rw [run, List.foldl_append]
  rfl

/-- A move adds to the log of a desk what a call at this desk orders, and nothing else does. -/
theorem mem_attempts_step (s : Session ι) (m : Move ι) (i : ι) {a : Attempt}
    (ha : a ∈ ((s.step m).desk i).attempts) :
    a ∈ (s.desk i).attempts ∨ ∃ turn operator command, m = .call i turn ∧
      turn.2.order? (s.desk i) = some (operator, command) ∧ a.Says operator command := by
  cases m with
  | call j turn =>
    simp only [step] at ha
    by_cases hij : i = j
    · subst hij
      rw [Function.update_self] at ha
      rcases (Desk.adds_perform (s.desk i) turn.1 turn.2).mem ha with ha | ha
      · exact Or.inl ha
      · obtain ⟨operator, command, horder, hsays⟩ := ha
        exact Or.inr ⟨turn, operator, command, rfl, horder, hsays⟩
    · rw [Function.update_of_ne hij] at ha
      exact Or.inl ha
  | share j operator =>
    simp only [step] at ha
    split at ha <;> exact Or.inl ha
  | merge j k =>
    simp only [step] at ha
    split at ha
    · by_cases hij : i = j
      · subst hij
        dsimp only at ha
        rw [Function.update_self, Desk.attempts_merge] at ha
        exact Or.inl ha
      · dsimp only at ha
        rw [Function.update_of_ne hij] at ha
        exact Or.inl ha
    · exact Or.inl ha

/-- **Behind every attempt of a session is a call that ordered it**, at the desk as it was when the
    call was made. -/
theorem exists_call_of_mem_attempts (madeUp : ι → String) (settings : ι → Settings)
    (moves : List (Move ι)) (i : ι) {a : Attempt}
    (ha : a ∈ ((run madeUp settings moves).desk i).attempts) :
    ∃ (before after : List (Move ι)) (turn : Desk.Turn) (operator : String) (command : Command),
      moves = before ++ .call i turn :: after ∧
      turn.2.order? ((run madeUp settings before).desk i) = some (operator, command) ∧
      a.Says operator command := by
  induction moves using List.reverseRecOn with
  | nil => exact absurd ha List.not_mem_nil
  | append_singleton moves m ih =>
    rw [run_append_move] at ha
    rcases mem_attempts_step _ m i ha with ha | hnew
    · obtain ⟨before, after, turn, operator, command, hmoves, horder, hsays⟩ := ih ha
      refine ⟨before, after ++ [m], turn, operator, command, ?_, horder, hsays⟩
      rw [hmoves, List.append_assoc]
      rfl
    · obtain ⟨turn, operator, command, rfl, horder, hsays⟩ := hnew
      exact ⟨moves, [], turn, operator, command, rfl, horder, hsays⟩

/-! ## Reading commands back -/

/-- **Commands read back.**  A command is read from its text without the blanks at the end of an
    expression, so it is read as it is exactly if its expression does not end in a blank; and every
    command that was read from some text is read as it is from its own.  Whatever a desk handed to
    its transport, at any moment of any session and in any loop, is decoded as a request, and the
    text of the request is read as the command that was ordered, up to those blanks; so what a
    transport delivered and recorded is read in full. -/
theorem commands_read_back :
    (∀ c : Command, Command.parse c.text = .ok c.trimmed) ∧
    (∀ c : Command, Command.parse c.text = .ok c ↔ ¬ c.EndsBlank) ∧
    (∀ (source : String) (c : Command), Command.parse source = .ok c →
      Command.parse c.text = .ok c) ∧
    (∀ (ι : Type) [DecidableEq ι] (madeUp : ι → String) (settings : ι → Settings)
      (moves : List (Move ι)) (i : ι),
      (∀ a ∈ ((run madeUp settings moves).desk i).attempts,
        ∃ (before after : List (Move ι)) (turn : Desk.Turn) (operator : String) (command : Command),
          moves = before ++ .call i turn :: after ∧
          turn.2.order? ((run madeUp settings before).desk i) = some (operator, command) ∧
          a.Says operator command ∧ a.ReadsBack command) ∧
      ∃ told, Request.allTold? (Attempt.payloads ((run madeUp settings moves).desk i).attempts) =
          some told ∧
        List.Forall₂ (fun a t => a.request.worker = t.1 ∧ a.request.command = .ok t.2)
          (((run madeUp settings moves).desk i).attempts.filter Attempt.isDelivered) told) ∧
    ∀ (d : Desk) (sites : Sites) (feeds : Feeds), ∀ a ∈ (d.run sites feeds).1.attempts,
      a ∈ d.attempts ∨ ∃ operator, a.Says operator .resume ∧ a.ReadsBack .resume := by
  have hself : ∀ c : Command, Command.parse c.text = .ok c ↔ ¬ c.EndsBlank := by
    intro c
    rw [Command.parse_text, ← Command.trimmed_eq_self_iff]
    constructor
    · exact fun h => by injection h
    · exact fun h => by rw [h]
  refine ⟨Command.parse_text, hself, ?_, ?_, ?_⟩
  · intro source c h
    exact (hself c).mpr (Command.not_endsBlank_of_parse h)
  · intro ι _ madeUp settings moves i
    refine ⟨?_, Attempt.exists_allTold ?_⟩
    · intro a ha
      obtain ⟨before, after, turn, operator, command, hmoves, horder, hsays⟩ :=
        exists_call_of_mem_attempts madeUp settings moves i ha
      exact ⟨before, after, turn, operator, command, hmoves, horder, hsays, hsays.readsBack⟩
    · intro a ha
      obtain ⟨_, _, _, _, command, _, _, hsays⟩ :=
        exists_call_of_mem_attempts madeUp settings moves i (List.mem_filter.mp ha).1
      exact ⟨command, hsays.readsBack⟩
  · intro d sites feeds a ha
    rcases (Desk.adds_run d sites feeds).mem ha with ha | ⟨operator, hsays⟩
    · exact Or.inl ha
    · exact Or.inr ⟨operator, hsays, hsays.readsBack⟩

/-! ## A condition that was typed with a line end -/

/-- A breakpoint is confirmed, and its condition is edited to one that ends in a line feed. -/
def typed : List (Move Unit) :=
  [.call () (⟨.const ["w1"], .reliable⟩, .register Sample.operator),
   .call () (⟨.const ["w1"], .reliable⟩, .hear (Sample.created "w1" 1 5)),
   .call () (⟨.const ["w1"], .closed⟩, .editCondition Sample.operator 1 "x > 5 \n")]

/-- The attempt to send the condition, which is refused. -/
def typedAttempt : Attempt :=
  ⟨"DebugCommandRequest", .ofCommand Sample.operator "w1" (.condition 1 "x > 5 \n"), some .closed⟩

/-- What was ordered is read without the line feed, and read again as it is from then on. -/
theorem typed_reads_back :
    typedAttempt ∈ ((run (fun _ => "") (fun _ => {}) typed).desk ()).attempts ∧
      (∃ command, typedAttempt.Says Sample.operator command ∧ typedAttempt.ReadsBack command) ∧
      typedAttempt.request.command = .ok (.condition 1 "x > 5") ∧
      Command.parse (Command.condition 1 "x > 5").text = .ok (.condition 1 "x > 5") := by
  obtain ⟨htext, _, hagain, hsession, _⟩ := commands_read_back
  have hmem : typedAttempt ∈ ((run (fun _ => "") (fun _ => {}) typed).desk ()).attempts := by decide
  obtain ⟨hattempts, _⟩ := hsession Unit (fun _ => "") (fun _ => {}) typed ()
  obtain ⟨_, _, _, operator, command, _, _, hsays, hreads⟩ := hattempts typedAttempt hmem
  have hoperator : operator = Sample.operator := congrArg Request.operator hsays.symm
  have hread : typedAttempt.request.command = .ok (.condition 1 "x > 5") :=
    htext (.condition 1 "x > 5 \n")
  rw [hoperator] at hsays
  exact ⟨hmem, ⟨command, hsays, hreads⟩, hread, hagain _ _ hread⟩

end Session

end DebugDesk
