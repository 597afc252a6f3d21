import Mathlib.Data.List.Basic
import Mathlib.Tactic.SplitIfs
import Penrose.Runs

/-! A thread that serves commands. One command and one reply at a time are on their way between the thread and its
client; the client wakes the thread by a flag, and so does whoever asks it to stop. The work for a command takes
several steps, and whatever else the system does may come between any two steps of the thread. -/

namespace Penrose

variable {C Q R W H D K : Type}

/-- What a thread does for its commands, each of which asks a question: `W` are the places of the work, `H` what the
thread learns in a step, `D` the data that it shares with the client, and `K` what the client does with these. -/
structure Service (C Q R W H D K : Type) where
  accept : C → W
  work : W → H → D → (W ⊕ R) × D
  use : K → D → D
  question : C → Q
  questionAt : W → Q
  replyTo : R → Q
  questionAt_accept : ∀ command, questionAt (accept command) = question command
  questionAt_work : ∀ place learned data, (work place learned data).1.elim questionAt replyTo = questionAt place

/-- Where the thread is in its loop. -/
inductive ThreadPhase (R W : Type) where
  | checking | waiting | taking
  | working (place : W)
  | answering (reply : R)
  | waking | stopped

/-- The thread and what it shares with its client: the flags of the two sides, the queues, which hold one element,
and the data. -/
structure CommandThread (C R W D : Type) where
  stop : Bool
  flag : Bool
  clientFlag : Bool
  command : Option C
  reply : Option R
  phase : ThreadPhase R W
  data : D

/-- A step of the system: one of the thread, or something that another party does. -/
inductive ThreadEvent (C H K : Type) where
  | advances (learned : H)
  | returnsEarly
  | sends (command : C)
  | wakes
  | receives
  | uses (operation : K)
  | asksToStop

namespace CommandThread

/-- A thread that was started with empty queues. -/
def start (data : D) : CommandThread C R W D := ⟨false, false, false, none, none, .checking, data⟩

/-- The next step of the thread. It waits for its flag, and it stops only where it looks whether it shall. -/
def advance (service : Service C Q R W H D K) (thread : CommandThread C R W D) (learned : H) : CommandThread C R W D :=
  match thread.phase with
  | .checking => { thread with phase := if thread.stop then .stopped else .waiting }
  | .waiting => if thread.flag then { thread with flag := false, phase := .taking } else thread
  | .taking =>
      match thread.command with
      | none => { thread with phase := .checking }
      | some command => { thread with command := none, phase := .working (service.accept command) }
  | .working place =>
      { thread with
        phase := (service.work place learned thread.data).1.elim .working .answering
        data := (service.work place learned thread.data).2 }
  -- a reply for which there is no room is lost
  | .answering reply => { thread with reply := some (thread.reply.getD reply), phase := .waking }
  | .waking => { thread with clientFlag := true, phase := .checking }
  | .stopped => thread

def next (service : Service C Q R W H D K) (thread : CommandThread C R W D) :
    ThreadEvent C H K → CommandThread C R W D
  | .advances learned => thread.advance service learned
  | .returnsEarly => match thread.phase with
      | .waiting => { thread with phase := .checking }
      | _ => thread
  | .sends command => { thread with command := some (thread.command.getD command) }
  | .wakes => { thread with flag := true }
  | .receives => { thread with reply := none }
  | .uses operation => { thread with data := service.use operation thread.data }
  | .asksToStop => { thread with stop := true }

end CommandThread

/-- What has happened so far: the commands that were sent and that were taken, the replies that were made, that the
client received and that were lost, whether a wake is owed to the thread, and the commands that it took although it
had been asked to stop. -/
structure ThreadHistory (C R : Type) where
  sent : List C
  taken : List C
  answered : List R
  received : List R
  lost : List R
  owed : Bool
  takenLate : List C

namespace ThreadHistory

def start : ThreadHistory C R := ⟨[], [], [], [], [], false, []⟩

/-- What a step of the thread adds. -/
def recordAdvance (history : ThreadHistory C R) (thread : CommandThread C R W D) : ThreadHistory C R :=
  match thread.phase with
  | .taking =>
      { history with
        taken := history.taken ++ thread.command.toList
        takenLate := history.takenLate ++ if thread.stop then thread.command.toList else [] }
  | .answering reply =>
      { history with
        answered := history.answered ++ [reply]
        lost := history.lost ++ if thread.reply.isSome then [reply] else [] }
  | _ => history

/-- What a step adds. Who sends a command or asks the thread to stop owes it a wake. -/
def record (history : ThreadHistory C R) (thread : CommandThread C R W D) : ThreadEvent C H K → ThreadHistory C R
  | .advances _ => history.recordAdvance thread
  | .returnsEarly | .uses _ => history
  | .sends command =>
      { history with sent := history.sent ++ (if thread.command.isSome then [] else [command]), owed := true }
  | .wakes => { history with owed := false }
  | .receives => { history with received := history.received ++ thread.reply.toList }
  | .asksToStop => { history with owed := true }

end ThreadHistory

/-- A thread together with what has happened. -/
structure ServedThread (C R W D : Type) where
  thread : CommandThread C R W D
  history : ThreadHistory C R

namespace ServedThread

variable {service : Service C Q R W H D K} {s : ServedThread C R W D}

def start (data : D) : ServedThread C R W D := ⟨.start data, .start⟩

def next (service : Service C Q R W H D K) (s : ServedThread C R W D) (event : ThreadEvent C H K) :
    ServedThread C R W D :=
  ⟨s.thread.next service event, s.history.record s.thread event⟩

/-- The system after some steps from a start with these data. -/
def after (service : Service C Q R W H D K) (data : D) (events : List (ThreadEvent C H K)) : ServedThread C R W D :=
  events.foldl (next service) (start data)

/-- What every step keeps holds after all of them. -/
theorem after_inv {Inv : ServedThread C R W D → Prop} {data : D} (hstart : Inv (start data))
    (hnext : ∀ s event, Inv s → Inv (next service s event)) (events : List (ThreadEvent C H K)) :
    Inv (after service data events) :=
  List.foldlRecOn events (next service) hstart fun s hs event _ => hnext s event hs

/-- The question that the thread has in hand. -/
def inHand (service : Service C Q R W H D K) : ThreadPhase R W → List Q
  | .working place => [service.questionAt place]
  | .answering reply => [service.replyTo reply]
  | _ => []

/-- Every command that was sent is waiting, in hand or answered, in this order. -/
structure ServesInOrder (service : Service C Q R W H D K) (s : ServedThread C R W D) : Prop where
  sent_eq : s.history.sent = s.history.taken ++ s.thread.command.toList
  taken_eq : s.history.taken.map service.question =
    s.history.answered.map service.replyTo ++ inHand service s.thread.phase

/-- A step of the work leaves the thread with the question that it has in hand. -/
theorem inHand_work (service : Service C Q R W H D K) (place : W) (learned : H) (data : D) :
    inHand service ((service.work place learned data).1.elim .working .answering) = [service.questionAt place] := by
  have hquestion := service.questionAt_work place learned data
  cases hwork : (service.work place learned data).1 with
  | inl later =>
      rw [hwork] at hquestion
      exact congrArg (fun question => [question]) hquestion
  | inr reply =>
      rw [hwork] at hquestion
      exact congrArg (fun question => [question]) hquestion

theorem ServesInOrder.advance (h : s.ServesInOrder service) (learned : H) :
    (next service s (.advances learned)).ServesInOrder service := by
  obtain ⟨⟨stop, flag, clientFlag, command, reply, phase, data⟩, history⟩ := s
  obtain ⟨hsent, htaken⟩ := h
  cases phase with
  | checking => cases stop <;> exact ⟨hsent, htaken⟩
  | waiting => cases flag <;> exact ⟨hsent, htaken⟩
  | taking =>
      have hidle : history.taken.map service.question = history.answered.map service.replyTo :=
        htaken.trans (List.append_nil _)
      cases command with
      | none =>
          refine ⟨hsent.trans (List.append_nil _).symm, ?_⟩
          exact (congrArg (List.map service.question) (List.append_nil _)).trans htaken
      | some command =>
          refine ⟨hsent.trans (List.append_nil _).symm, ?_⟩
          calc (history.taken ++ [command]).map service.question
              = history.taken.map service.question ++ [service.question command] := List.map_append ..
            _ = history.answered.map service.replyTo ++ [service.question command] := by rw [hidle]
            _ = history.answered.map service.replyTo ++ [service.questionAt (service.accept command)] := by
                rw [service.questionAt_accept]
  | working place => exact ⟨hsent, htaken.trans (congrArg _ (inHand_work service place learned data).symm)⟩
  | answering answer =>
      refine ⟨hsent, htaken.trans ?_⟩
      simp [next, ThreadHistory.record, ThreadHistory.recordAdvance, CommandThread.next, CommandThread.advance, inHand]
  | waking => exact ⟨hsent, htaken⟩
  | stopped => exact ⟨hsent, htaken⟩

theorem ServesInOrder.next (h : s.ServesInOrder service) (event : ThreadEvent C H K) :
    (next service s event).ServesInOrder service := by
  cases event with
  | advances learned => exact h.advance learned
  | returnsEarly =>
      obtain ⟨⟨stop, flag, clientFlag, command, reply, phase, data⟩, history⟩ := s
      cases phase <;> exact ⟨h.sent_eq, h.taken_eq⟩
  | sends command =>
      refine ⟨?_, h.taken_eq⟩
      have hsent := h.sent_eq
      cases hcommand : s.thread.command <;>
        simp [ServedThread.next, ThreadHistory.record, CommandThread.next, hcommand, hsent]
  | wakes => exact ⟨h.sent_eq, h.taken_eq⟩
  | receives => exact ⟨h.sent_eq, h.taken_eq⟩
  | uses operation => exact ⟨h.sent_eq, h.taken_eq⟩
  | asksToStop => exact ⟨h.sent_eq, h.taken_eq⟩

theorem servesInOrder_after (service : Service C Q R W H D K) (data : D) (events : List (ThreadEvent C H K)) :
    (after service data events).ServesInOrder service :=
  after_inv ⟨rfl, rfl⟩ (fun _ event h => h.next event) events

/-! ### Replies -/

/-- The client received the replies in the order in which they were made, save for those that were lost. -/
structure KeepsReplies (s : ServedThread C R W D) : Prop where
  sublist : (s.history.received ++ s.thread.reply.toList).Sublist s.history.answered
  length_eq : s.history.answered.length =
    s.history.received.length + s.thread.reply.toList.length + s.history.lost.length

theorem KeepsReplies.next (h : s.KeepsReplies) (event : ThreadEvent C H K) : (next service s event).KeepsReplies := by
  obtain ⟨⟨stop, flag, clientFlag, command, reply, phase, data⟩, history⟩ := s
  obtain ⟨hsublist, hlength⟩ := h
  cases event with
  | advances learned =>
      cases phase with
      | checking => exact ⟨hsublist, hlength⟩
      | waiting => cases flag <;> exact ⟨hsublist, hlength⟩
      | taking => cases command <;> exact ⟨hsublist, hlength⟩
      | working place => exact ⟨hsublist, hlength⟩
      | answering answer =>
          cases reply with
          | none =>
              refine ⟨?_, ?_⟩
              · have hbefore : history.received.Sublist history.answered := by simpa using hsublist
                exact hbefore.append (List.Sublist.refl [answer])
              · simp only [Option.toList_none, List.length_nil] at hlength
                simp [ServedThread.next, ThreadHistory.record, ThreadHistory.recordAdvance, CommandThread.next,
                  CommandThread.advance]
                omega
          | some old =>
              refine ⟨hsublist.trans (List.sublist_append_left ..), ?_⟩
              simp [ServedThread.next, ThreadHistory.record, ThreadHistory.recordAdvance, CommandThread.next,
                CommandThread.advance] at hlength ⊢
              omega
      | waking => exact ⟨hsublist, hlength⟩
      | stopped => exact ⟨hsublist, hlength⟩
  | returnsEarly => cases phase <;> exact ⟨hsublist, hlength⟩
  | sends command => exact ⟨hsublist, hlength⟩
  | wakes => exact ⟨hsublist, hlength⟩
  | receives =>
      refine ⟨?_, ?_⟩
      · simpa [ServedThread.next, ThreadHistory.record, CommandThread.next] using hsublist
      · simpa [ServedThread.next, ThreadHistory.record, CommandThread.next] using hlength
  | uses operation => exact ⟨hsublist, hlength⟩
  | asksToStop => exact ⟨hsublist, hlength⟩

/-- A client that sends a command only when it has received the replies to all the commands before. -/
def Polite (s : ServedThread C R W D) : ThreadEvent C H K → Prop
  | .sends _ => s.history.received.length = s.history.sent.length
  | _ => True

/-- One command at most is on its way, and no reply was lost. -/
structure OneAtATime (service : Service C Q R W H D K) (s : ServedThread C R W D) : Prop extends
    ServesInOrder service s, KeepsReplies s where
  sent_le : s.history.sent.length ≤ s.history.received.length + 1
  lost_eq : s.history.lost = []

/-- What is between the commands that were sent and the replies that were received. -/
theorem OneAtATime.length_sent (h : s.OneAtATime service) :
    s.history.sent.length =
      s.history.received.length + s.thread.reply.toList.length +
        ((inHand service s.thread.phase).length + s.thread.command.toList.length) := by
  have hlength := h.length_eq
  rw [h.lost_eq] at hlength
  have htaken := congrArg List.length h.taken_eq
  rw [List.length_map, List.length_append, List.length_map, hlength] at htaken
  rw [h.sent_eq, List.length_append, htaken]
  simp only [List.length_nil]
  omega

theorem OneAtATime.next (h : s.OneAtATime service) {event : ThreadEvent C H K} (hpolite : s.Polite event) :
    (next service s event).OneAtATime service := by
  refine ⟨h.toServesInOrder.next event, h.toKeepsReplies.next event, ?_, ?_⟩
  · have hle := h.sent_le
    cases event with
    | advances learned =>
        obtain ⟨⟨stop, flag, clientFlag, command, reply, phase, data⟩, history⟩ := s
        cases phase <;> exact hle
    | sends command =>
        have hsent : s.history.received.length = s.history.sent.length := hpolite
        cases hcommand : s.thread.command <;>
          simp [ServedThread.next, ThreadHistory.record, hcommand, hsent]
    | receives =>
        refine Nat.le_trans hle (Nat.succ_le_succ ?_)
        exact (List.sublist_append_left ..).length_le
    | returnsEarly => exact hle
    | wakes => exact hle
    | uses operation => exact hle
    | asksToStop => exact hle
  · have hlength := h.length_sent
    have hle := h.sent_le
    have hlost := h.lost_eq
    cases event with
    | advances learned =>
        obtain ⟨⟨stop, flag, clientFlag, command, reply, phase, data⟩, history⟩ := s
        cases phase with
        | answering answer =>
            -- the command in hand is the one that is on its way, so there is room for the reply
            cases reply with
            | none => exact (List.append_nil _).trans hlost
            | some old =>
                simp only [inHand, Option.toList_some, List.length_cons, List.length_nil] at hlength hle
                omega
        | _ => exact hlost
    | _ => exact hlost

theorem oneAtATime_after (service : Service C Q R W H D K) (data : D) {events : List (ThreadEvent C H K)}
    (hpolite : Run (ServedThread.next service) Polite (start data) events) :
    (after service data events).OneAtATime service :=
  Run.inv_foldl (fun _ _ h hstep => h.next hstep) ⟨⟨rfl, rfl⟩, ⟨List.Sublist.refl [], rfl⟩, Nat.zero_le _, rfl⟩
    hpolite

/-- The replies that a polite client received are those to the first commands that it sent. -/
theorem OneAtATime.received_isPrefix (h : s.OneAtATime service) :
    s.history.received.map service.replyTo <+: s.history.sent.map service.question := by
  have hanswered : s.history.received ++ s.thread.reply.toList = s.history.answered := by
    apply h.sublist.eq_of_length
    rw [h.length_eq, h.lost_eq, List.length_append, List.length_nil, Nat.add_zero]
  rw [h.sent_eq, List.map_append, h.taken_eq, ← hanswered, List.map_append, List.append_assoc, List.append_assoc]
  exact List.prefix_append ..

/-! ### Waking and stopping -/

/-- What waits for the thread does not wait in vain: it will look, or a wake is owed to it. -/
structure WakesInTime (s : ServedThread C R W D) : Prop where
  of_command : s.thread.command.isSome = true →
    s.history.owed = true ∨ s.thread.flag = true ∨ s.thread.phase = .taking
  of_stop : s.thread.stop = true → s.thread.phase = .waiting → s.history.owed = true ∨ s.thread.flag = true

/-- A step by which the thread neither takes a command nor begins to wait changes nothing. -/
theorem WakesInTime.of_unmoved (h : s.WakesInTime) (hphase : s.thread.phase ≠ .taking) {later : ServedThread C R W D}
    (hcommand : later.thread.command = s.thread.command) (hflag : later.thread.flag = s.thread.flag)
    (howed : later.history.owed = s.history.owed) (hlater : later.thread.phase ≠ .waiting) : later.WakesInTime := by
  refine ⟨?_, ?_⟩
  · intro hsome
    rw [hcommand] at hsome
    rw [hflag, howed]
    obtain h' | h' | h' := h.of_command hsome
    · exact Or.inl h'
    · exact Or.inr (Or.inl h')
    · exact absurd h' hphase
  · intro _ hwaiting
    exact absurd hwaiting hlater

theorem WakesInTime.advance (h : s.WakesInTime) (learned : H) : (next service s (.advances learned)).WakesInTime := by
  obtain ⟨⟨stop, flag, clientFlag, command, reply, phase, data⟩, history⟩ := s
  cases phase with
  | checking =>
      cases stop with
      | true => refine h.of_unmoved ?_ rfl rfl rfl ?_ <;> intro hphase <;> cases hphase
      | false =>
          refine ⟨?_, ?_⟩
          · intro hsome
            obtain howed | hflag | hphase := h.of_command hsome
            · exact Or.inl howed
            · exact Or.inr (Or.inl hflag)
            · cases hphase
          · intro hstop
            cases hstop
  | waiting =>
      cases flag with
      | false => exact ⟨h.of_command, h.of_stop⟩
      | true =>
          refine ⟨?_, ?_⟩
          · exact fun _ => Or.inr (Or.inr rfl)
          · intro _ hwaiting
            cases hwaiting
  | taking =>
      -- the queue is empty after this step
      cases command <;> refine ⟨?_, ?_⟩
      · intro hsome
        cases hsome
      · intro _ hwaiting
        cases hwaiting
      · intro hsome
        cases hsome
      · intro _ hwaiting
        cases hwaiting
  | working place =>
      refine h.of_unmoved (by simp) rfl rfl rfl ?_
      cases hwork : (service.work place learned data).1 <;>
        simp [ServedThread.next, CommandThread.next, CommandThread.advance, hwork]
  | answering answer => refine h.of_unmoved ?_ rfl rfl rfl ?_ <;> intro hphase <;> cases hphase
  | waking => refine h.of_unmoved ?_ rfl rfl rfl ?_ <;> intro hphase <;> cases hphase
  | stopped => exact ⟨h.of_command, h.of_stop⟩

theorem WakesInTime.next (h : s.WakesInTime) (event : ThreadEvent C H K) : (next service s event).WakesInTime := by
  cases event with
  | advances learned => exact h.advance learned
  | returnsEarly =>
      obtain ⟨⟨stop, flag, clientFlag, command, reply, phase, data⟩, history⟩ := s
      cases phase with
      | waiting => refine h.of_unmoved ?_ rfl rfl rfl ?_ <;> intro hphase <;> cases hphase
      | _ => exact ⟨h.of_command, h.of_stop⟩
  | sends command => exact ⟨fun _ => Or.inl rfl, fun _ _ => Or.inl rfl⟩
  | wakes => exact ⟨fun _ => Or.inr (Or.inl rfl), fun _ _ => Or.inr rfl⟩
  | receives => exact ⟨h.of_command, h.of_stop⟩
  | uses operation => exact ⟨h.of_command, h.of_stop⟩
  | asksToStop => exact ⟨fun _ => Or.inl rfl, fun _ _ => Or.inl rfl⟩

theorem wakesInTime_after (service : Service C Q R W H D K) (data : D) (events : List (ThreadEvent C H K)) :
    (after service data events).WakesInTime :=
  after_inv ⟨fun hsome => (by cases hsome), fun hstop => (by cases hstop)⟩ (fun _ event h => h.next event) events

/-- A thread that waits without a flag to come has nothing left to do. -/
theorem WakesInTime.blocked (h : s.WakesInTime) (howed : s.history.owed = false) (hflag : s.thread.flag = false)
    (hphase : s.thread.phase = .waiting) : s.thread.command = none ∧ s.thread.stop = false := by
  refine ⟨?_, ?_⟩
  · cases hcommand : s.thread.command with
    | none => rfl
    | some command =>
        obtain h' | h' | h' := h.of_command (by rw [hcommand]; rfl)
        · rw [howed] at h'
          cases h'
        · rw [hflag] at h'
          cases h'
        · rw [hphase] at h'
          cases h'
  · cases hstop : s.thread.stop with
    | false => rfl
    | true =>
        obtain h' | h' := h.of_stop hstop hphase
        · rw [howed] at h'
          cases h'
        · rw [hflag] at h'
          cases h'

/-- The thread takes one command at most after it was asked to stop. -/
structure StopsSoon (s : ServedThread C R W D) : Prop where
  of_not_stop : s.thread.stop = false → s.history.takenLate = []
  of_takenLate : s.history.takenLate ≠ [] →
    s.history.takenLate.length = 1 ∧ s.thread.phase ≠ .waiting ∧ s.thread.phase ≠ .taking
  of_stopped : s.thread.phase = .stopped → s.thread.stop = true

/-- A step that takes nothing and begins neither to wait nor to stop changes nothing. -/
theorem StopsSoon.of_unmoved (h : s.StopsSoon) {later : ServedThread C R W D}
    (hstop : later.thread.stop = s.thread.stop) (hlate : later.history.takenLate = s.history.takenLate)
    (hwaiting : later.thread.phase ≠ .waiting) (htaking : later.thread.phase ≠ .taking)
    (hstopped : later.thread.phase ≠ .stopped) : later.StopsSoon := by
  refine ⟨?_, ?_, fun h => absurd h hstopped⟩
  · intro hrunning
    rw [hlate]
    exact h.of_not_stop (hstop ▸ hrunning)
  · intro hne
    rw [hlate] at hne ⊢
    exact ⟨(h.of_takenLate hne).1, hwaiting, htaking⟩

theorem StopsSoon.advance (h : s.StopsSoon) (learned : H) : (next service s (.advances learned)).StopsSoon := by
  obtain ⟨⟨stop, flag, clientFlag, command, reply, phase, data⟩, history⟩ := s
  cases phase with
  | checking =>
      cases stop with
      | true =>
          refine ⟨h.of_not_stop, fun hne => ⟨(h.of_takenLate hne).1, ?_, ?_⟩, fun _ => rfl⟩ <;>
            intro hphase <;> cases hphase
      | false => exact ⟨h.of_not_stop, fun hne => absurd (h.of_not_stop rfl) hne, fun hphase => (by cases hphase)⟩
  | waiting =>
      cases flag with
      | false => exact h
      | true =>
          refine ⟨h.of_not_stop, fun hne => absurd rfl (h.of_takenLate hne).2.1, ?_⟩
          intro hphase
          cases hphase
  | taking =>
      -- nothing was taken late before this step
      have hempty : history.takenLate = [] := by
        by_contra hne
        exact (h.of_takenLate hne).2.2 rfl
      have hlate : (ServedThread.next service ⟨⟨stop, flag, clientFlag, command, reply, .taking, data⟩, history⟩
          (.advances learned)).history.takenLate = if stop then command.toList else [] := by
        simp [ServedThread.next, ThreadHistory.record, ThreadHistory.recordAdvance, hempty]
      refine ⟨?_, ?_, ?_⟩
      · intro hrunning
        have hfalse : stop = false := by cases command <;> exact hrunning
        rw [hlate, hfalse]
        rfl
      · intro hne
        rw [hlate] at hne ⊢
        cases stop with
        | false => exact absurd rfl hne
        | true =>
            cases command with
            | none => exact absurd rfl hne
            | some command => simp [ServedThread.next, CommandThread.next, CommandThread.advance]
      · intro hphase
        cases command <;> cases hphase
  | working place =>
      refine h.of_unmoved rfl rfl ?_ ?_ ?_ <;>
        cases hwork : (service.work place learned data).1 <;>
          simp [ServedThread.next, CommandThread.next, CommandThread.advance, hwork]
  | answering answer => refine h.of_unmoved rfl rfl ?_ ?_ ?_ <;> intro hphase <;> cases hphase
  | waking => refine h.of_unmoved rfl rfl ?_ ?_ ?_ <;> intro hphase <;> cases hphase
  | stopped => exact h

theorem StopsSoon.next (h : s.StopsSoon) (event : ThreadEvent C H K) : (next service s event).StopsSoon := by
  cases event with
  | advances learned => exact h.advance learned
  | returnsEarly =>
      obtain ⟨⟨stop, flag, clientFlag, command, reply, phase, data⟩, history⟩ := s
      cases phase with
      | waiting => refine h.of_unmoved rfl rfl ?_ ?_ ?_ <;> intro hphase <;> cases hphase
      | _ => exact h
  | asksToStop => exact ⟨fun hrunning => (by cases hrunning), h.of_takenLate, fun _ => rfl⟩
  | _ => exact ⟨h.of_not_stop, h.of_takenLate, h.of_stopped⟩

theorem stopsSoon_after (service : Service C Q R W H D K) (data : D) (events : List (ThreadEvent C H K)) :
    (after service data events).StopsSoon :=
  after_inv ⟨fun _ => rfl, fun hne => absurd rfl hne, fun hphase => (by cases hphase)⟩
    (fun _ event h => h.next event) events

theorem StopsSoon.length_le (h : s.StopsSoon) : s.history.takenLate.length ≤ 1 := by
  by_cases hempty : s.history.takenLate = []
  · rw [hempty]
    exact Nat.zero_le 1
  · exact Nat.le_of_eq (h.of_takenLate hempty).1

/-! ### A thread that is left alone -/

/-- The thread has stopped, or waits for a flag that has not come. -/
def Idle (s : ServedThread C R W D) : Prop :=
  s.thread.phase = .stopped ∨ s.thread.phase = .waiting ∧ s.thread.flag = false

/-- How far the thread is from the end of its loop. `steps` bounds the work that is left at a place, and `bound` the
work for a command. -/
def phaseRank (steps : W → Nat) (bound : Nat) : ThreadPhase R W → Nat
  | .stopped | .waiting => 0
  | .checking => 1
  | .waking => 2
  | .answering _ => 3
  | .working place => steps place + 4
  | .taking => bound + 5

/-- A bound on the steps until the thread is idle. -/
def stepsLeft (steps : W → Nat) (bound : Nat) (s : ServedThread C R W D) : Nat :=
  (if s.thread.flag then bound + 6 else 0) + phaseRank steps bound s.thread.phase

/-- The work for every command ends. -/
structure WorkEnds (service : Service C Q R W H D K) (steps : W → Nat) (bound : Nat) : Prop where
  accept_le : ∀ command, steps (service.accept command) ≤ bound
  work_lt : ∀ place learned data later, (service.work place learned data).1 = .inl later → steps later < steps place

variable {steps : W → Nat} {bound : Nat}

theorem Idle.next_advances (hidle : s.Idle) (learned : H) : next service s (.advances learned) = s := by
  obtain ⟨⟨stop, flag, clientFlag, command, reply, phase, data⟩, history⟩ := s
  obtain hphase | ⟨hphase, hflag⟩ := hidle
  · cases hphase
    rfl
  · cases hphase
    cases hflag
    rfl

theorem WorkEnds.stepsLeft_lt (h : WorkEnds service steps bound) (hbusy : ¬ s.Idle) (learned : H) :
    stepsLeft steps bound (next service s (.advances learned)) < stepsLeft steps bound s := by
  obtain ⟨⟨stop, flag, clientFlag, command, reply, phase, data⟩, history⟩ := s
  cases phase with
  | checking => cases stop <;> exact Nat.lt_succ_self _
  | waiting =>
      cases flag with
      | false => exact absurd (Or.inr ⟨rfl, rfl⟩) hbusy
      | true => exact (by simp [stepsLeft, phaseRank, ServedThread.next, CommandThread.next, CommandThread.advance])
  | taking =>
      cases command with
      | none =>
          apply Nat.add_lt_add_left
          change 1 < bound + 5
          omega
      | some command =>
          have haccept := h.accept_le command
          apply Nat.add_lt_add_left
          change steps (service.accept command) + 4 < bound + 5
          omega
  | working place =>
      apply Nat.add_lt_add_left
      cases hwork : (service.work place learned data).1 with
      | inl later =>
          have hlater := h.work_lt place learned data later hwork
          simp only [ServedThread.next, CommandThread.next, CommandThread.advance, hwork, Sum.elim_inl, phaseRank]
          omega
      | inr answer =>
          simp only [ServedThread.next, CommandThread.next, CommandThread.advance, hwork, Sum.elim_inr, phaseRank]
          omega
  | answering answer => exact Nat.lt_succ_self _
  | waking => exact Nat.lt_succ_self _
  | stopped => exact absurd (Or.inl rfl) hbusy

theorem Idle.foldl_advances (hidle : s.Idle) (learned : List H) :
    (learned.map ThreadEvent.advances).foldl (next service) s = s := by
  induction learned with
  | nil => rfl
  | cons head rest ih =>
      rw [List.map_cons, List.foldl_cons, hidle.next_advances]
      exact ih

theorem WorkEnds.idle_alone (h : WorkEnds service steps bound) {learned : List H}
    (hlong : stepsLeft steps bound s ≤ learned.length) :
    ((learned.map ThreadEvent.advances).foldl (next service) s).Idle := by
  induction learned generalizing s with
  | nil =>
      by_contra hbusy
      have hlt := Nat.lt_of_lt_of_le (Nat.pos_of_ne_zero ?_) hlong
      · exact absurd hlt (Nat.lt_irrefl 0)
      · intro hrank
        obtain ⟨⟨stop, flag, clientFlag, command, reply, phase, data⟩, history⟩ := s
        cases flag <;> cases phase <;> simp [stepsLeft, phaseRank, Idle] at hrank hbusy
  | cons head rest ih =>
      by_cases hidle : s.Idle
      · rw [hidle.foldl_advances]
        exact hidle
      · apply ih
        have hlt := h.stepsLeft_lt hidle head
        rw [List.length_cons] at hlong
        omega

theorem frame_advances (service : Service C Q R W H D K) (s : ServedThread C R W D) (learned : List H) :
    ((learned.map ThreadEvent.advances).foldl (next service) s).thread.stop = s.thread.stop ∧
      ((learned.map ThreadEvent.advances).foldl (next service) s).history.owed = s.history.owed ∧
      ((learned.map ThreadEvent.advances).foldl (next service) s).history.sent = s.history.sent := by
  induction learned generalizing s with
  | nil => exact ⟨rfl, rfl, rfl⟩
  | cons head rest ih =>
      obtain ⟨hstop, howed, hsent⟩ := ih (next service s (.advances head))
      have hhead : (next service s (.advances head)).thread.stop = s.thread.stop ∧
          (next service s (.advances head)).history.owed = s.history.owed ∧
          (next service s (.advances head)).history.sent = s.history.sent := by
        obtain ⟨⟨stop, flag, clientFlag, command, reply, phase, data⟩, history⟩ := s
        cases phase with
        | waiting => cases flag <;> exact ⟨rfl, rfl, rfl⟩
        | taking => cases command <;> exact ⟨rfl, rfl, rfl⟩
        | _ => exact ⟨rfl, rfl, rfl⟩
      exact ⟨hstop.trans hhead.1, howed.trans hhead.2.1, hsent.trans hhead.2.2⟩

/-- A bound on the steps that does not depend on the system. -/
theorem stepsLeft_le (hplace : ∀ place, s.thread.phase = .working place → steps place ≤ bound) :
    stepsLeft steps bound s ≤ 2 * bound + 11 := by
  have hrank : phaseRank steps bound s.thread.phase ≤ bound + 5 := by
    cases hphase : s.thread.phase with
    | working place =>
        have hle := hplace place hphase
        simp only [phaseRank]
        omega
    | _ => simp [phaseRank]
  rw [stepsLeft]
  split <;> omega

/-- A thread that is left alone, with no wake owed to it, answers every command that was sent, unless it was asked to
stop; then it stops. -/
theorem settles_alone (hends : WorkEnds service steps bound) (data : D) (events : List (ThreadEvent C H K))
    (howed : (after service data events).history.owed = false) {learned : List H}
    (hlong : stepsLeft steps bound (after service data events) ≤ learned.length) :
    let later := after service data (events ++ learned.map ThreadEvent.advances)
    ((after service data events).thread.stop = true → later.thread.phase = .stopped) ∧
      ((after service data events).thread.stop = false →
        later.history.answered.map service.replyTo =
          (after service data events).history.sent.map service.question) := by
  intro later
  have hlater : later = (learned.map ThreadEvent.advances).foldl (next service) (after service data events) :=
    List.foldl_append ..
  obtain ⟨hstop, howed', hsent⟩ := frame_advances service (after service data events) learned
  rw [← hlater] at hstop howed' hsent
  have hidle : later.Idle := by
    rw [hlater]
    exact hends.idle_alone hlong
  have hwakes : later.WakesInTime := wakesInTime_after ..
  have hserves : later.ServesInOrder service := servesInOrder_after ..
  have hstops : later.StopsSoon := stopsSoon_after ..
  refine ⟨?_, ?_⟩
  · intro hasked
    obtain hphase | ⟨hphase, hflag⟩ := hidle
    · exact hphase
    · have hblocked := hwakes.blocked (howed'.trans howed) hflag hphase
      rw [hstop, hasked] at hblocked
      cases hblocked.2
  · intro hrunning
    obtain hphase | ⟨hphase, hflag⟩ := hidle
    · have hasked := hstops.of_stopped hphase
      rw [hstop, hrunning] at hasked
      cases hasked
    · have hblocked := hwakes.blocked (howed'.trans howed) hflag hphase
      have htaken := hserves.taken_eq
      have hnothing : inHand service (ThreadPhase.waiting : ThreadPhase R W) = [] := rfl
      rw [hphase, hnothing, List.append_nil] at htaken
      rw [← hsent, hserves.sent_eq, hblocked.1, Option.toList_none, List.append_nil, htaken]

/-! ### The data -/

/-- The place of the work, if the thread works. -/
def placeOf : ThreadPhase R W → Option W
  | .working place => some place
  | _ => none

/-- The reply that the thread has made and not given. -/
def replyInHand : ThreadPhase R W → List R
  | .answering reply => [reply]
  | _ => []

/-- The replies that the thread has made. -/
def made (s : ServedThread C R W D) : List R := s.history.answered ++ replyInHand s.thread.phase

/-- The thread learns in its work only what it is allowed to. -/
def Learns (Allowed : W → H → Prop) (s : ServedThread C R W D) : ThreadEvent C H K → Prop
  | .advances learned => ∀ place, s.thread.phase = .working place → Allowed place learned
  | _ => True

/-- What holds of the replies after a step of the work. -/
def HoldsAfter (Holds : Option W → List R → D → Prop) (replies : List R) : (W ⊕ R) × D → Prop
  | (.inl place, data) => Holds (some place) replies data
  | (.inr reply, data) => Holds none (replies ++ [reply]) data

/-- A condition on the data and on the replies so far, which may depend on the place of the work, holds after any
steps if the work and the client keep it. -/
structure Keeps (service : Service C Q R W H D K) (Allowed : W → H → Prop) (Holds : Option W → List R → D → Prop) :
    Prop where
  accept : ∀ command replies data, Holds none replies data → Holds (some (service.accept command)) replies data
  work : ∀ place learned replies data, Holds (some place) replies data → Allowed place learned →
    HoldsAfter Holds replies (service.work place learned data)
  use : ∀ place operation replies data, Holds place replies data → Holds place replies (service.use operation data)

variable {Allowed : W → H → Prop} {Holds : Option W → List R → D → Prop}

theorem Keeps.next (h : Keeps service Allowed Holds)
    (hholds : Holds (placeOf s.thread.phase) s.made s.thread.data) {event : ThreadEvent C H K}
    (hlearns : s.Learns Allowed event) :
    Holds (placeOf (next service s event).thread.phase) (next service s event).made
      (next service s event).thread.data := by
  obtain ⟨⟨stop, flag, clientFlag, command, reply, phase, data⟩, history⟩ := s
  cases event with
  | advances learned =>
      cases phase with
      | checking => cases stop <;> exact hholds
      | waiting => cases flag <;> exact hholds
      | taking =>
          cases command with
          | none => exact hholds
          | some command => exact h.accept command _ data hholds
      | working place =>
          have hreplies : made ⟨⟨stop, flag, clientFlag, command, reply, .working place, data⟩, history⟩ =
              history.answered := List.append_nil _
          rw [hreplies] at hholds
          have hlater := h.work place learned _ data hholds (hlearns place rfl)
          cases hwork : service.work place learned data with
          | mk outcome after =>
              rw [hwork] at hlater
              cases outcome <;>
                simpa [ServedThread.next, ThreadHistory.record, ThreadHistory.recordAdvance, CommandThread.next,
                  CommandThread.advance, made, replyInHand, placeOf, hwork, HoldsAfter] using hlater
      | answering answer =>
          simpa [ServedThread.next, ThreadHistory.record, ThreadHistory.recordAdvance, CommandThread.next,
            CommandThread.advance, made, replyInHand, placeOf] using hholds
      | waking => exact hholds
      | stopped => exact hholds
  | returnsEarly => cases phase <;> exact hholds
  | uses operation => exact h.use _ operation _ data hholds
  | _ => exact hholds

/-- A thread that may learn anything. -/
theorem run_learns (hallowed : ∀ place learned, Allowed place learned) (s : ServedThread C R W D)
    (events : List (ThreadEvent C H K)) : Run (ServedThread.next service) (Learns Allowed) s events := by
  induction events generalizing s with
  | nil => trivial
  | cons event events ih =>
      refine ⟨?_, ih _⟩
      cases event with
      | advances learned => exact fun place _ => hallowed place learned
      | _ => trivial

theorem Keeps.after (h : Keeps service Allowed Holds) {data : D} (hstart : Holds none [] data)
    {events : List (ThreadEvent C H K)} (hrun : Run (ServedThread.next service) (Learns Allowed) (start data) events) :
    Holds (placeOf (after service data events).thread.phase) (after service data events).made
      (after service data events).thread.data :=
  @Run.inv_foldl _ _ (ServedThread.next service) (Learns Allowed)
    (fun s => Holds (placeOf s.thread.phase) s.made s.thread.data) (fun _ _ hholds hlearns => h.next hholds hlearns)
    _ _ hstart hrun

end ServedThread

end Penrose
