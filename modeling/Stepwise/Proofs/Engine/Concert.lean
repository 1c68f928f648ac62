import Stepwise.Proofs.Engine.Anonymous
import Stepwise.Proofs.Engine.System

/-!
# Runs in concert

A host makes any number of calls on one engine, and their runs take their turns in any order. Some
begin while others are under way or over, and time passes in between; nobody is asked to stop, the
registries stay as they are, and handlers answer by their input alone. Then every run has its part
as if it were alone: after as many turns it stands in the same place, and it has made the same saves
and the same calls of handlers, but for ids and times.

What a run does is rehearsed on the engine as it was before the concert. A turn on the shared engine
comes to what was rehearsed, since other runs have changed neither the record that it loads nor the
registries and limits, and they hold no lock that it would have to wait for.
-/

namespace Stepwise

variable {η : Type}

/-- A call that a host makes of an engine: to execute a workflow, or to take a record up. -/
inductive Call where
  | execution (workflowId input : Value)
  | resumption (id : String)

def Call.effect : Call → Effect (Engine η) (Run η)
  | .execution workflowId input => Engine.startExecution workflowId input
  | .resumption id => Engine.startResumption (.str id)

/-- Handlers that answer by their input alone and leave the engine to itself. -/
def Engine.answering (answer : η → Value → Outcome) : Behavior η :=
  fun handler input engine => (answer handler input, engine)

/-- What a run hears when handlers answer by their input alone. -/
def Run.hears (answer : η → Value → Outcome) : Run η → Outcome
  | .calling _ _ handler input => answer handler input
  | _ => .expired

/-- The part of a call: how many turns its run has taken, where the run stands, and what its turns
have added to the trace. -/
structure Part (η : Type) where
  call : Call
  turns : Nat
  run : Run η
  events : List (Event η)

namespace Part

/-- The part that begins with a call on the engine. -/
def begun (call : Call) (engine : Engine η) : Part η :=
  ⟨call, 0, (engine.start call.effect).1, []⟩

/-- The turn of the part on the engine as it is. -/
def turn (answer : η → Value → Outcome) (part : Part η) (engine : Engine η) : Turn η :=
  ⟨part.run, engine, part.run.hears answer⟩

/-- The part after one more turn. -/
def turned (answer : η → Value → Outcome) (part : Part η) (engine : Engine η) : Part η :=
  ⟨part.call, part.turns + 1, (part.turn answer engine).after.1,
    part.events ++ (part.turn answer engine).events⟩

end Part

namespace Engine

/-- The part of a call whose run has the engine for itself. -/
def alone (origin : Engine η) (answer : η → Value → Outcome) (call : Call) (turns : Nat) :
    Part η :=
  let started := origin.start call.effect
  ⟨call, turns, (moves (answering answer) turns started.1 started.2).1,
    (turnsOf (answering answer) turns started.1 started.2).flatMap Turn.events⟩

/-- The engine never gives the id to an execution from here on. -/
def NeverIssues (engine : Engine η) (id : String) : Prop :=
  ∀ number, engine.issued < number → id ≠ s!"exec-{number}"

/-- No call is under way on the engine, it is quiet, and every record is kept under its id. -/
structure IsRested (engine : Engine η) : Prop where
  quiet : engine.IsQuiet
  unclaimed : engine.ownership.Registers []
  orderly : engine.ownership.IsOrderly
  filed : ∀ id record, engine.store.kept? id = some record → record.id = .str id

end Engine

/-- The parts of the calls that were made on one engine, and where they have left it. No record is
taken up twice. -/
inductive Concert (origin : Engine η) (answer : η → Value → Outcome) :
    List (Part η) → Engine η → Prop where
  | silent : Concert origin answer [] origin
  | executed {parts : List (Part η)} {engine : Engine η} (workflowId input : Value)
    (concert : Concert origin answer parts engine) :
    Concert origin answer (parts ++ [.begun (.execution workflowId input) engine])
      (engine.start (Engine.startExecution workflowId input)).2
  | resumed {parts : List (Part η)} {engine : Engine η} (id : String)
    (new : ∀ part ∈ parts, part.call ≠ .resumption id) (foreign : origin.NeverIssues id)
    (concert : Concert origin answer parts engine) :
    Concert origin answer (parts ++ [.begun (.resumption id) engine])
      (engine.start (Engine.startResumption (.str id))).2
  | turned {before later : List (Part η)} {part : Part η} {engine : Engine η}
    (concert : Concert origin answer (before ++ part :: later) engine) :
    Concert origin answer (before ++ part.turned answer engine :: later)
      (part.turn answer engine).after.2
  | passed {parts : List (Part η)} {engine : Engine η} (now : Moment)
    (concert : Concert origin answer parts engine) :
    Concert origin answer parts { engine with now }

/-! ## Rehearsals -/

theorem Run.hears_anonymous (answer : η → Value → Outcome) (run : Run η) :
    run.anonymous.hears answer = run.hears answer := by
  cases run <;> rfl

namespace Engine

variable {origin engine : Engine η} {answer : η → Value → Outcome}

/-- Where the run of a call begins. -/
def outset (origin : Engine η) : Call → Run η
  | .execution workflowId input => .orFault (origin.beginning workflowId input)
  | .resumption id => .loading (.str id)

/-- What a turn comes to on the engine as it was. -/
def rehearse (origin : Engine η) (answer : η → Value → Outcome) (run : Run η) :
    Run η × List (Event η) :=
  match run with
  | .loading (.str id) => (.orFault (origin.loaded id >>= origin.takingUp (.str id)), [])
  | run => origin.play (run.hears answer) run

/-- What a number of turns come to, without ids and times. -/
def rehearsal (origin : Engine η) (answer : η → Value → Outcome) (call : Call) :
    Nat → Run η × List (Event η)
  | 0 => ((origin.outset call).anonymous, [])
  | turns + 1 =>
    let before := origin.rehearsal answer call turns
    let next := origin.rehearse answer before.1
    (next.1.anonymous, before.2 ++ next.2.map Event.anonymous)

theorem turnOf_heard (answer : η → Value → Outcome) (run : Run η) (engine : Engine η) :
    turnOf (answering answer) run engine = ⟨run, engine, run.hears answer⟩ := by
  cases run <;> rfl

/-- An execution begins in one place but for ids and times. -/
theorem beginning_anonymous (agrees : engine.Agrees origin) (workflowId input : Value) :
    (engine.beginning workflowId input).map Run.anonymous =
      (origin.beginning workflowId input).map Run.anonymous := by
  unfold beginning
  rw [agrees.workflows]
  split
  · rfl
  · rfl
  · rename_i workflow given _ _
    cases workflow.id.text <;> rfl

theorem takingUp_anonymous (agrees : engine.Agrees origin) (id : Value) (record : Execution) :
    (engine.takingUp id record).map Run.anonymous =
      (origin.takingUp id record).map Run.anonymous := by
  unfold takingUp
  split
  · cases id.text <;> rfl
  · rw [agrees.workflows]
    cases origin.workflows.get record.workflow with
    | error f => rfl
    | ok workflow =>
      dsimp only
      cases workflow.id.text <;> rfl

theorem loaded_eq (agrees : engine.Agrees origin) {id : String}
    (kept : engine.store.kept? id = origin.store.kept? id) :
    engine.loaded id = origin.loaded id := by
  rw [loaded, loaded, agrees.options, kept]

/-- A run that has loaded a record works on it under the id that it asked for, or it is over. -/
theorem place_of_loaded {id : String} {run : Run η}
    (filed : ∀ record, engine.store.kept? id = some record → record.id = .str id)
    (comes : run = .orFault (engine.loaded id >>= engine.takingUp (.str id))) :
    (∀ claimed, run ≠ .loading claimed) ∧ (∀ work, run ≠ .waiting work) ∧
      ∀ work, run.work? = some work →
        work.claimed = .str id ∧ work.execution.id = .str id := by
  have stands : (∃ f, run = .finished (.error f)) ∨
      ∃ workflow record lock, record.id = .str id ∧
        run = .opening (workOn (.str id) lock workflow record) := by
    subst comes
    cases given : engine.loaded id with
    | error f => exact .inl ⟨f, rfl⟩
    | ok record =>
      cases taken : engine.takingUp (.str id) record with
      | error f => exact .inl ⟨f, congrArg Run.orFault taken⟩
      | ok run =>
        obtain ⟨workflow, rfl⟩ := takingUp_ok taken
        exact .inr ⟨workflow, record, _, loaded_named filed given, congrArg Run.orFault taken⟩
  clear comes
  obtain ⟨f, rfl⟩ | ⟨workflow, record, lock, named, rfl⟩ := stands
  · exact ⟨nofun, nofun, nofun⟩
  · refine ⟨nofun, nofun, ?_⟩
    rintro _ ⟨⟩
    exact ⟨rfl, named⟩

/-- Different numbers make different ids. -/
theorem issued_injective {number other : Nat} (same : s!"exec-{number}" = s!"exec-{other}") :
    number = other := by
  have told : number.repr = other.repr := (String.append_right_inj "exec-").mp same
  have digits : Nat.toDigits 10 number = Nat.toDigits 10 other := by
    simpa [Nat.repr] using congrArg String.toList told
  have read (n : Nat) : Nat.ofDigitChars 10 (Nat.toDigits 10 n) 0 = n :=
    Nat.ofDigitChars_toDigits (by decide) (by decide)
  rw [← read number, digits, read]

/-- A run that has nothing to load rehearses its turn. -/
theorem rehearse_of_onward (origin : Engine η) (answer : η → Value → Outcome) {run : Run η}
    (onward : ∀ claimed, run ≠ .loading claimed) :
    origin.rehearse answer run = origin.play (run.hears answer) run := by
  unfold rehearse
  split
  · exact absurd rfl (onward _)
  · rfl

end Engine

/-- A turn that comes to what was rehearsed carries the rehearsal on. -/
theorem Part.rehearsed_turned {origin engine : Engine η} {answer : η → Value → Outcome}
    {part : Part η}
    (rehearsed : (part.run.anonymous, part.events.map Event.anonymous) =
      origin.rehearsal answer part.call part.turns)
    (comes : (part.turn answer engine).after.1.anonymous =
      (origin.rehearse answer part.run.anonymous).1.anonymous)
    (notes : (part.turn answer engine).events.map Event.anonymous =
      (origin.rehearse answer part.run.anonymous).2.map Event.anonymous) :
    ((part.turned answer engine).run.anonymous,
        (part.turned answer engine).events.map Event.anonymous) =
      origin.rehearsal answer part.call (part.turns + 1) := by
  rw [Engine.rehearsal, ← rehearsed]
  dsimp only [Part.turned]
  rw [List.map_append, comes, notes]

/-! ## What every turn keeps -/

/-- The id is one that the record of the call may have: the one that the call asks for, or one that
the engine has issued since the concert began. -/
def Call.Names (origin : Engine η) (issued : Nat) : Call → Value → Prop
  | .execution _ _, id =>
    ∃ number, origin.issued < number ∧ number ≤ issued ∧ id = .str s!"exec-{number}"
  | .resumption asked, id => id = .str asked

/-- The run of the part works on the record of its call and has no lock to wait for, and it stands
where it was rehearsed to stand. -/
structure Part.IsInPlace (origin : Engine η) (answer : η → Value → Outcome) (engine : Engine η)
    (part : Part η) : Prop where
  named : ∀ work, part.run.work? = some work →
    work.claimed = work.execution.id ∧ part.call.Names origin engine.issued work.execution.id
  loading : ∀ claimed, part.run = .loading claimed → ∃ id, part.call = .resumption id ∧
    claimed = .str id ∧ ∀ entry ∈ engine.ownership.locks, entry.1 ≠ .str id
  free : ∀ work, part.run ≠ .waiting work
  foreign : ∀ id, part.call = .resumption id → origin.NeverIssues id
  rehearsed : (part.run.anonymous, part.events.map Event.anonymous) =
    origin.rehearsal answer part.call part.turns

/-- The engine has the registries and limits that it had before the concert, every part is in its
place, and what is kept under an id that is still to be loaded is what was kept before. -/
structure Concert.InTune (origin : Engine η) (answer : η → Value → Outcome) (parts : List (Part η))
    (engine : Engine η) : Prop where
  agrees : engine.Agrees origin
  quiet : engine.IsQuiet
  orderly : engine.ownership.IsOrderly
  system : System.IsOrderly ⟨parts.map Part.run, engine⟩
  issued : origin.issued ≤ engine.issued
  inPlace : ∀ part ∈ parts, part.IsInPlace origin answer engine
  apart : (parts.map Part.call).Pairwise fun call other =>
    ∀ id, call = .resumption id → other ≠ .resumption id
  kept : ∀ id, origin.NeverIssues id →
    (∀ part ∈ parts, part.call = .resumption id → part.run = .loading (.str id)) →
    engine.store.kept? id = origin.store.kept? id

namespace Call.Names

variable {origin : Engine η} {issued later : Nat} {call : Call} {id : Value}

theorem mono (names : call.Names origin issued id) (grows : issued ≤ later) :
    call.Names origin later id := by
  cases call with
  | execution workflowId input =>
    obtain ⟨number, after, before, same⟩ := names
    exact ⟨number, after, Nat.le_trans before grows, same⟩
  | resumption asked => exact names

theorem isText (names : call.Names origin issued id) : ∃ text, id = .str text := by
  cases call with
  | execution workflowId input =>
    obtain ⟨number, -, -, same⟩ := names
    exact ⟨_, same⟩
  | resumption asked => exact ⟨asked, names⟩

/-- An id that is issued next is none that a record has yet. -/
theorem ne_next (names : call.Names origin issued id)
    (foreign : ∀ asked, call = .resumption asked → origin.NeverIssues asked)
    (since : origin.issued ≤ issued) : id ≠ .str s!"exec-{issued + 1}" := by
  cases call with
  | execution workflowId input =>
    obtain ⟨number, -, before, rfl⟩ := names
    intro same
    have equal := Engine.issued_injective (Value.str.inj same)
    omega
  | resumption asked =>
    rintro same
    exact foreign asked rfl (issued + 1) (by omega) (Value.str.inj (names.symm.trans same))

/-- A record of another call has another id than one that is asked for. -/
theorem ne_asked (names : call.Names origin issued id) {asked : String}
    (foreign : origin.NeverIssues asked) (other : call ≠ .resumption asked) :
    id ≠ .str asked := by
  cases call with
  | execution workflowId input =>
    obtain ⟨number, after, -, rfl⟩ := names
    intro same
    exact foreign number after (Value.str.inj same).symm
  | resumption known =>
    rintro same
    have equal := Value.str.inj (names.symm.trans same)
    exact other (equal ▸ rfl)

end Call.Names

namespace Part.IsInPlace

variable {origin engine changed : Engine η} {answer : η → Value → Outcome} {part : Part η}

/-- What a run has claimed is the id of its record. -/
theorem names_of_claimed (inPlace : part.IsInPlace origin answer engine) {id : Value}
    (claimed : part.run.claimed? = some id) : part.call.Names origin engine.issued id := by
  cases stands : part.run.work? with
  | some work =>
    rw [Run.claimed?_of_work stands] at claimed
    cases claimed
    obtain ⟨own, names⟩ := inPlace.named work stands
    exact own ▸ names
  | none =>
    cases place : part.run with
    | loading asked =>
      rw [place] at claimed
      cases claimed
      obtain ⟨known, calls, same, -⟩ := inPlace.loading _ place
      rw [calls]
      exact same
    | finished result =>
      rw [place] at claimed
      cases claimed
    | _ =>
      rw [place] at stands
      cases stands

/-- A part stays in its place when others have issued ids and taken locks of their own. -/
theorem beside (inPlace : part.IsInPlace origin answer engine)
    (grows : engine.issued ≤ changed.issued) {id : Value}
    (leads : engine.ownership.LeadsTo changed.ownership id)
    (other : ∀ asked, part.call = .resumption asked → id ≠ .str asked) :
    part.IsInPlace origin answer changed where
  named work stands := by
    obtain ⟨own, names⟩ := inPlace.named work stands
    exact ⟨own, names.mono grows⟩
  loading claimed place := by
    obtain ⟨asked, calls, same, unlocked⟩ := inPlace.loading claimed place
    refine ⟨asked, calls, same, fun entry member => ?_⟩
    obtain earlier | own := leads.locked entry member
    · exact unlocked entry earlier
    · exact own ▸ other asked calls
  free := inPlace.free
  foreign := inPlace.foreign
  rehearsed := inPlace.rehearsed

end Part.IsInPlace

namespace Concert.InTune

variable {origin engine : Engine η} {answer : η → Value → Outcome} {parts : List (Part η)}

/-- An id that no run has claimed is free. -/
theorem isFree (inTune : InTune origin answer parts engine) {id : String}
    (apart : ∀ part ∈ parts, ∀ v, part.run.claimed? = some v → v ≠ .str id) :
    engine.ownership.IsFree (.str id) := by
  refine inTune.system.registers.isFree inTune.orderly ?_
  rw [inTune.system.registers.isActive_eq, Value.isAmong_eq_false_iff]
  intro v claimed
  obtain ⟨run, member, claims⟩ := List.mem_filterMap.mp claimed
  obtain ⟨part, among, rfl⟩ := List.mem_map.mp member
  cases same : v.same (.str id) with
  | false => rfl
  | true => exact absurd (Value.eq_str_of_same same) (apart part among v claims)

/-- A new part changes nothing for the others when it begins under an id of its own. -/
theorem joined (inTune : InTune origin answer parts engine) {part : Part η} {changed : Engine η}
    {id : Value} (agrees : changed.Agrees origin) (store : changed.store = engine.store)
    (grows : engine.issued ≤ changed.issued)
    (leads : engine.ownership.LeadsTo changed.ownership id)
    (step : System.Step ⟨parts.map Part.run, engine⟩ ⟨parts.map Part.run ++ [part.run], changed⟩)
    (inPlace : part.IsInPlace origin answer changed)
    (other : ∀ known ∈ parts, ∀ asked, known.call = .resumption asked →
      id ≠ .str asked ∧ part.call ≠ .resumption asked) :
    InTune origin answer (parts ++ [part]) changed where
  agrees := agrees
  quiet := by
    obtain ⟨inMemory, unplanned, unasked⟩ := inTune.quiet
    refine ⟨store ▸ inMemory, store ▸ unplanned, List.eq_nil_iff_forall_not_mem.mpr ?_⟩
    intro request made
    exact List.not_mem_nil (unasked ▸ leads.requested made)
  orderly := leads.orderly inTune.orderly
  system := by
    rw [List.map_append, List.map_singleton]
    exact step.isOrderly inTune.system
  issued := Nat.le_trans inTune.issued grows
  inPlace := by
    intro known member
    obtain earlier | last := List.mem_append.mp member
    · exact (inTune.inPlace known earlier).beside grows leads
        fun asked calls => (other known earlier asked calls).1
    · exact List.mem_singleton.mp last ▸ inPlace
  apart := by
    rw [List.map_append, List.map_singleton]
    refine List.pairwise_append.mpr ⟨inTune.apart, List.pairwise_singleton _ _, ?_⟩
    intro call member last same asked calls
    obtain ⟨known, among, rfl⟩ := List.mem_map.mp member
    exact List.mem_singleton.mp same ▸ (other known among asked calls).2
  kept := by
    intro asked foreign loading
    rw [store]
    exact inTune.kept asked foreign fun known member =>
      loading known (List.mem_append_left _ member)

/-- An execution joins in. -/
theorem executed (inTune : InTune origin answer parts engine) (workflowId input : Value) :
    InTune origin answer (parts ++ [.begun (.execution workflowId input) engine])
      (engine.start (Engine.startExecution workflowId input)).2 := by
  have free : engine.ownership.IsFree engine.nextId := inTune.isFree fun part member v claims =>
    ((inTune.inPlace part member).names_of_claimed claims).ne_next
      (inTune.inPlace part member).foreign inTune.issued
  obtain ⟨issued, ownership, started, grows, leads, issues⟩ :=
    engine.start_of_free workflowId input free
  have step := System.Step.executed (parts.map Part.run) engine workflowId input
  have begun : Part.begun (.execution workflowId input) engine =
      ⟨.execution workflowId input, 0, .orFault (engine.beginning workflowId input), []⟩ :=
    congrArg (Part.mk _ 0 · []) (congrArg Prod.fst started)
  rw [started] at step ⊢
  rw [begun]
  refine inTune.joined { inTune.agrees with } rfl grows leads step ?_ ?_
  · have rehearsed := Run.orFault_anonymous
      (Engine.beginning_anonymous inTune.agrees workflowId input)
    cases begins : engine.beginning workflowId input with
    | error f =>
      rw [begins] at rehearsed
      refine ⟨fun work stands => ?_, fun claimed loading => ?_, fun work waiting => ?_,
        fun asked calls => ?_, congrArg (·, []) rehearsed⟩
      · cases stands
      · cases loading
      · cases waiting
      · cases calls
    | ok run =>
      rw [begins] at rehearsed
      obtain ⟨workflow, given, rfl⟩ := Engine.beginning_ok begins
      obtain rfl | ⟨f, refused⟩ := issues
      · refine ⟨fun work stands => ?_, fun claimed loading => ?_, fun work waiting => ?_,
          fun asked calls => ?_, congrArg (·, []) rehearsed⟩
        · cases stands
          exact ⟨rfl, engine.issued + 1, Nat.lt_succ_of_le inTune.issued, Nat.le_refl _, rfl⟩
        · cases loading
        · cases waiting
        · cases calls
      · rw [begins] at refused
        cases refused
  · intro known member asked calls
    refine ⟨fun same => ?_, (fun same => by cases same)⟩
    exact (inTune.inPlace known member).foreign asked calls (engine.issued + 1)
      (Nat.lt_succ_of_le inTune.issued) (Value.str.inj same).symm

/-- A run joins in that takes a record up. -/
theorem resumed (inTune : InTune origin answer parts engine) {id : String}
    (new : ∀ part ∈ parts, part.call ≠ .resumption id) (foreign : origin.NeverIssues id) :
    InTune origin answer (parts ++ [.begun (.resumption id) engine])
      (engine.start (Engine.startResumption (.str id))).2 := by
  have free : engine.ownership.IsFree (.str id) := inTune.isFree fun part member v claims =>
    ((inTune.inPlace part member).names_of_claimed claims).ne_asked foreign (new part member)
  have started := Engine.startResumption_of_free (Value.isKey_str id) free.unclaimed
  have step := System.Step.resumed (parts.map Part.run) engine (.str id)
  have begun : Part.begun (.resumption id) engine = ⟨.resumption id, 0, .loading (.str id), []⟩ :=
    congrArg (Part.mk _ 0 · []) (congrArg Prod.fst started)
  rw [started] at step ⊢
  rw [begun]
  refine inTune.joined { inTune.agrees with } rfl (Nat.le_refl _)
    (engine.ownership.leadsTo_claiming (.str id)) step ?_ ?_
  · refine ⟨fun work stands => ?_, ?_, fun work waiting => ?_, ?_, rfl⟩
    · cases stands
    · rintro _ ⟨⟩
      refine ⟨id, rfl, rfl, fun entry member own => ?_⟩
      have unlocked : engine.ownership.locks.filter (·.1.same (.str id)) = [] :=
        congrArg Prod.snd free.clear
      refine List.filter_eq_nil_iff.mp unlocked entry member ?_
      rw [own]
      exact Value.same_str_self id
    · cases waiting
    · rintro _ ⟨⟩
      exact foreign
  · intro known member asked calls
    have apart : asked ≠ id := fun same => new known member (same ▸ calls)
    exact ⟨fun same => apart (Value.str.inj same).symm,
      fun same => apart (Call.resumption.inj same).symm⟩

/-! ### Turns -/

variable {before later : List (Part η)} {part : Part η}

/-- No other part takes the record up that a part takes up. -/
theorem others_apart (inTune : InTune origin answer (before ++ part :: later) engine)
    {other : Part η} (beside : other ∈ before ∨ other ∈ later) {asked : String}
    (calls : other.call = .resumption asked) : part.call ≠ .resumption asked := by
  have apart := inTune.apart
  rw [List.map_append, List.map_cons] at apart
  obtain ⟨-, behind, ahead⟩ := List.pairwise_append.mp apart
  intro same
  obtain earlier | last := beside
  · exact ahead _ (List.mem_map_of_mem earlier) _ List.mem_cons_self asked calls same
  · exact (List.pairwise_cons.mp behind).1 _ (List.mem_map_of_mem last) asked same calls

/-- A turn of one part changes nothing for the others: it may change the record of its own id, and
what it owns. -/
theorem moved (inTune : InTune origin answer (before ++ part :: later) engine) {next : Part η}
    {store : Store} {ownership : Ownership} {trace : List (Event η)} {id : Value}
    (other : ∀ asked, origin.NeverIssues asked → part.call ≠ .resumption asked →
      id ≠ .str asked) (same : next.call = part.call)
    (onward : ∀ claimed, next.run ≠ .loading claimed)
    (inMemory : store.IsInMemory) (plan : store.plan = engine.store.plan)
    (leads : engine.ownership.LeadsTo ownership id)
    (step : System.Step ⟨(before ++ part :: later).map Part.run, engine⟩
      ⟨(before ++ next :: later).map Part.run, { engine with store, ownership, trace }⟩)
    (inPlace : next.IsInPlace origin answer { engine with store, ownership, trace })
    (kept : ∀ asked, id ≠ .str asked → store.kept? asked = engine.store.kept? asked) :
    InTune origin answer (before ++ next :: later) { engine with store, ownership, trace } where
  agrees := { inTune.agrees with }
  quiet := by
    refine ⟨inMemory, plan.trans inTune.quiet.unplanned, List.eq_nil_iff_forall_not_mem.mpr ?_⟩
    intro request made
    exact List.not_mem_nil (inTune.quiet.unasked ▸ leads.requested made)
  orderly := leads.orderly inTune.orderly
  system := step.isOrderly inTune.system
  issued := inTune.issued
  inPlace := by
    have others (known : Part η) (beside : known ∈ before ∨ known ∈ later)
        (member : known ∈ before ++ part :: later) :
        known.IsInPlace origin answer { engine with store, ownership, trace } := by
      have there := inTune.inPlace known member
      refine there.beside (Nat.le_refl _) leads fun asked calls => ?_
      exact other asked (there.foreign asked calls) (inTune.others_apart beside calls)
    intro known member
    obtain earlier | rest := List.mem_append.mp member
    · exact others known (.inl earlier) (List.mem_append_left _ earlier)
    · obtain rfl | last := List.mem_cons.mp rest
      · exact inPlace
      · exact others known (.inr last) (List.mem_append_right _ (List.mem_cons_of_mem _ last))
  apart := by
    have apart := inTune.apart
    rw [List.map_append, List.map_cons, ← same] at apart
    rw [List.map_append, List.map_cons]
    exact apart
  kept := by
    intro asked foreign loading
    have elsewhere : part.call ≠ .resumption asked := by
      intro calls
      exact onward _ (loading next (by simp) (same.trans calls))
    refine (kept asked (other asked foreign elsewhere)).trans ?_
    refine inTune.kept asked foreign fun known member calls => ?_
    obtain earlier | rest := List.mem_append.mp member
    · exact loading known (List.mem_append_left _ earlier) calls
    · obtain rfl | last := List.mem_cons.mp rest
      · exact absurd calls elsewhere
      · exact loading known (List.mem_append_right _ (List.mem_cons_of_mem _ last)) calls

/-- What the turn of a run that has work, or is over, leaves to the others. -/
theorem left_to_others (inTune : InTune origin answer (before ++ part :: later) engine)
    (atWork : Turn.IsAtWork part.run) :
    ∃ store ownership trace id, (part.turn answer engine).after.2 =
        { engine with store, ownership, trace } ∧
      store.plan = engine.store.plan ∧ store.IsInMemory ∧
      engine.ownership.LeadsTo ownership id ∧
      (∀ asked, origin.NeverIssues asked → part.call ≠ .resumption asked → id ≠ .str asked) ∧
      ∀ asked, id ≠ .str asked → store.kept? asked = engine.store.kept? asked := by
  have inPlace := inTune.inPlace part (by simp)
  obtain ⟨kept, inMemory⟩ := inTune.quiet.inMemory
  cases stands : part.run.work? with
  | some work =>
    obtain ⟨own, names⟩ := inPlace.named work stands
    obtain ⟨store, ownership, trace, left, plan, backing, leads⟩ :=
      Turn.left_of_quiet (part.turn answer engine) inTune.quiet atWork stands
    obtain ⟨name, text⟩ := names.isText
    refine ⟨store, ownership, trace, work.execution.id, left, plan, ?_, own ▸ leads,
      fun asked => names.ne_asked, fun asked apart => ?_⟩
    · obtain same | inserted := backing kept inMemory
      · exact ⟨_, same⟩
      · exact ⟨_, inserted⟩
    · obtain same | inserted := backing kept inMemory
      · exact Store.kept?_of_backing (same.trans inMemory.symm) asked
      · rw [text] at inserted apart
        rw [Store.kept?, Store.kept?, inserted, inMemory]
        exact Table.find?_insert_of_ne (fun same => apart (congrArg Value.str same)) _ kept
  | none =>
    obtain ⟨result, ended⟩ : ∃ result, part.run = .finished result := by
      have sound := atWork.sound
      cases place : part.run with
      | finished result => exact ⟨result, rfl⟩
      | loading claimed =>
        rw [place] at sound
        exact sound.elim
      | _ =>
        rw [place] at stands
        cases stands
    have rests : (part.turn answer engine).after = (.finished result, engine) :=
      Turn.after_of_finished ended
    exact ⟨engine.store, engine.ownership, engine.trace, .null, congrArg Prod.snd rests, rfl,
      ⟨kept, inMemory⟩, engine.ownership.leadsTo_refl _, (fun _ _ _ same => by cases same),
      fun _ _ => rfl⟩

/-- A run that has work, or is over, has its turn. -/
theorem turned_of_sound (inTune : InTune origin answer (before ++ part :: later) engine)
    (onward : ∀ claimed, part.run ≠ .loading claimed) :
    InTune origin answer (before ++ part.turned answer engine :: later)
      (part.turn answer engine).after.2 := by
  have inPlace := inTune.inPlace part (by simp)
  have sound : part.run.IsSound := by
    obtain ⟨claimed, loading⟩ | sound := (inTune.system.own part.run (by simp)).sound
    · exact absurd loading (onward claimed)
    · exact sound
  have named (work : Work) (stands : part.run.work? = some work) :
      work.execution.id.IsName := .inr (inPlace.named work stands).2.isText
  have atWork : Turn.IsAtWork (part.turn answer engine).run := ⟨sound, named, inPlace.free⟩
  obtain ⟨comes, notes⟩ := Turn.after_of_quiet inTune.quiet atWork
  obtain ⟨unloaded, unblocked, continues⟩ :=
    Turn.place_of_sound (part.turn answer engine) sound inPlace.free
  -- The turn was rehearsed.
  have played := Engine.play_anonymous inTune.agrees (part.run.hears answer) named
  have rehearsing : origin.rehearse answer part.run.anonymous =
      origin.play (part.run.hears answer) part.run.anonymous := by
    rw [Engine.rehearse_of_onward, Run.hears_anonymous]
    intro claimed loading
    cases place : part.run with
    | loading other => exact onward other place
    | _ =>
      rw [place] at loading
      cases loading
  have rehearsed := Part.rehearsed_turned inPlace.rehearsed
    (by rw [comes, rehearsing]; exact played.1) (by rw [notes, rehearsing]; exact played.2)
  have step := System.Step.turned (before.map Part.run) (later.map Part.run)
    (part.turn answer engine) fun claimed record store loading => absurd loading (onward claimed)
  obtain ⟨store, ownership, trace, id, left, plan, inMemory, leads, other, kept⟩ :=
    inTune.left_to_others atWork
  rw [left] at step ⊢
  refine inTune.moved other rfl unloaded inMemory plan leads ?_ ⟨?_, ?_, unblocked,
    inPlace.foreign, rehearsed⟩ kept
  · rw [List.map_append, List.map_cons, List.map_append, List.map_cons]
    exact step
  · intro later comes
    obtain ⟨work, stands, onward⟩ := continues later comes
    obtain ⟨own, names⟩ := inPlace.named work stands
    exact ⟨by rw [onward.claimed, onward.named, own], by rw [onward.named]; exact names⟩
  · exact fun claimed loading => absurd loading (unloaded claimed)

/-- Where every record is kept under its id, a turn loads only a record of the id it asks for. -/
theorem isFaithful_of_filed {turn : Turn η} {id : String}
    (inMemory : turn.found.store.IsInMemory) (loading : turn.run = .loading (.str id))
    (filed : ∀ record, turn.found.store.kept? id = some record → record.id = .str id) :
    turn.IsFaithful := by
  intro claimed record store asked loaded
  obtain ⟨kept, backing⟩ := inMemory
  rw [loading] at asked
  cases asked
  have given := Store.load_memory backing loaded
  cases found : kept.find? (.str id) with
  | none =>
    rw [found] at given
    cases given
  | some known =>
    rw [found] at given
    cases given
    have named := filed known (by rw [Store.kept?, backing]; exact found)
    simp [Execution.copied, named, Value.copied]

/-- A record that is still to be loaded is what it was before the concert. -/
theorem kept_of_loading (inTune : InTune origin answer (before ++ part :: later) engine)
    {id : String} (calls : part.call = .resumption id) (loading : part.run = .loading (.str id)) :
    engine.store.kept? id = origin.store.kept? id := by
  have foreign := (inTune.inPlace part (by simp)).foreign id calls
  refine inTune.kept id foreign fun known member also => ?_
  obtain earlier | rest := List.mem_append.mp member
  · exact absurd calls (inTune.others_apart (.inl earlier) also)
  · obtain rfl | last := List.mem_cons.mp rest
    · exact loading
    · exact absurd calls (inTune.others_apart (.inr last) also)

/-- A run that is to load its record has its turn. -/
theorem turned_of_loading (inTune : InTune origin answer (before ++ part :: later) engine)
    (filed : ∀ id record, origin.store.kept? id = some record → record.id = .str id)
    {claimed : Value} (loading : part.run = .loading claimed) :
    InTune origin answer (before ++ part.turned answer engine :: later)
      (part.turn answer engine).after.2 := by
  have inPlace := inTune.inPlace part (by simp)
  obtain ⟨id, calls, rfl, unlocked⟩ := inPlace.loading claimed loading
  have kept := inTune.kept_of_loading calls loading
  have own : ∀ record, engine.store.kept? id = some record → record.id = .str id :=
    fun record found => filed id record (kept ▸ found)
  have absent : engine.ownership.locks.find? (.str id) = none := by
    refine Table.find?_eq_none_iff.mpr (List.filter_eq_nil_iff.mpr fun entry member same => ?_)
    exact unlocked entry member (Value.eq_str_of_same same)
  obtain ⟨comes, store, ownership, left, plan, backing, leads⟩ :=
    Turn.after_of_quiet_loading (part.turn answer engine) inTune.quiet loading own
      inTune.orderly absent
  have silent : (part.turn answer engine).events = [] :=
    Turn.events_of_trace (by rw [left, List.append_nil])
  -- The turn was rehearsed.
  have rehearsing : origin.rehearse answer part.run.anonymous =
      (.orFault (origin.loaded id >>= origin.takingUp (.str id)), []) := by
    rw [loading]
    rfl
  have played : (Run.orFault (engine.loaded id >>= engine.takingUp (.str id))).anonymous =
      (Run.orFault (origin.loaded id >>= origin.takingUp (.str id))).anonymous := by
    refine Run.orFault_anonymous ?_
    rw [Engine.loaded_eq inTune.agrees kept]
    cases origin.loaded id with
    | error f => rfl
    | ok record => exact Engine.takingUp_anonymous inTune.agrees (.str id) record
  have rehearsed := Part.rehearsed_turned inPlace.rehearsed
    (by rw [comes, rehearsing]; exact played) (by rw [silent, rehearsing])
  have step := System.Step.turned (before.map Part.run) (later.map Part.run)
    (part.turn answer engine) (isFaithful_of_filed inTune.quiet.inMemory loading own)
  obtain ⟨unloaded, unblocked, works⟩ := Engine.place_of_loaded own comes
  rw [left] at step ⊢
  refine inTune.moved (fun asked _ elsewhere same => elsewhere (Value.str.inj same ▸ calls)) rfl
    unloaded ?_ plan leads ?_ ⟨?_, fun claimed loading => absurd loading (unloaded claimed),
      unblocked, inPlace.foreign, rehearsed⟩ fun asked _ => Store.kept?_of_backing backing asked
  · obtain ⟨kept, inMemory⟩ := inTune.quiet.inMemory
    exact ⟨kept, backing.trans inMemory⟩
  · rw [List.map_append, List.map_cons, List.map_append, List.map_cons]
    exact step
  · intro work stands
    obtain ⟨claimed, named⟩ := works work stands
    refine ⟨claimed.trans named.symm, ?_⟩
    dsimp only [Part.turned]
    rw [calls]
    exact named

end Concert.InTune

namespace Concert

variable {origin engine : Engine η} {answer : η → Value → Outcome} {parts : List (Part η)}

/-- Every concert on a rested engine is in tune. -/
theorem inTune (concert : Concert origin answer parts engine) (rested : origin.IsRested) :
    InTune origin answer parts engine := by
  induction concert with
  | silent =>
    exact {
      agrees := ⟨rfl, rfl, rfl, rfl⟩
      quiet := rested.quiet
      orderly := rested.orderly
      system := ⟨rested.unclaimed, by simp⟩
      issued := Nat.le_refl _
      inPlace := by simp
      apart := .nil
      kept := fun _ _ _ => rfl }
  | executed workflowId input _ inductionHypothesis =>
    exact inductionHypothesis.executed workflowId input
  | resumed id new foreign _ inductionHypothesis => exact inductionHypothesis.resumed new foreign
  | @turned before later part engine _ inductionHypothesis =>
    by_cases loading : ∃ claimed, part.run = .loading claimed
    · obtain ⟨claimed, loading⟩ := loading
      exact inductionHypothesis.turned_of_loading rested.filed loading
    · exact inductionHypothesis.turned_of_sound fun claimed same => loading ⟨claimed, same⟩
  | passed now _ inductionHypothesis =>
    obtain ⟨agrees, quiet, orderly, system, issued, inPlace, apart, kept⟩ := inductionHypothesis
    exact {
      agrees := { agrees with }
      quiet := { quiet with }
      orderly := orderly
      system := ⟨system.registers, system.own⟩
      issued := issued
      inPlace := fun part member => { inPlace part member with }
      apart := apart
      kept := kept }

/-! ## A run for itself -/

/-- A single part may take any number of turns in a row. -/
theorem moves {part : Part η} (concert : Concert origin answer [part] engine) (count : Nat) :
    Concert origin answer
      [⟨part.call, part.turns + count,
        (Engine.moves (Engine.answering answer) count part.run engine).1,
        part.events ++
          (Engine.turnsOf (Engine.answering answer) count part.run engine).flatMap Turn.events⟩]
      (Engine.moves (Engine.answering answer) count part.run engine).2 := by
  induction count generalizing part engine with
  | zero => simpa [Engine.moves, Engine.turnsOf] using concert
  | succ count inductionHypothesis =>
    have turned : Concert origin answer ([] ++ part.turned answer engine :: [])
        (part.turn answer engine).after.2 := .turned concert
    have onward := inductionHypothesis turned
    have taken := Engine.turnOf_heard answer part.run engine
    simp only [Engine.moves, Engine.turnsOf, Engine.move_eq_after, taken, List.flatMap_cons]
    simp only [Part.turned, List.append_assoc] at onward
    rw [Nat.add_assoc, Nat.add_comm 1 count] at onward
    exact onward

/-- A run that has the engine for itself is a concert of one part. -/
theorem alone (answer : η → Value → Outcome) {call : Call}
    (foreign : ∀ id, call = .resumption id → origin.NeverIssues id) (turns : Nat) :
    ∃ engine, Concert origin answer [origin.alone answer call turns] engine := by
  have begun : Concert origin answer [.begun call origin] (origin.start call.effect).2 := by
    cases call with
    | execution workflowId input => exact silent.executed workflowId input
    | resumption id => exact silent.resumed id (by simp) (foreign id rfl)
  have onward := begun.moves turns
  rw [show (Part.begun call origin).turns + turns = turns from Nat.zero_add turns] at onward
  exact ⟨_, onward⟩

end Concert

/-! ## Schedules -/

namespace Letters

/-- The handlers answer by their input alone. -/
def answer : Bool → Value → Outcome := fun handler _ =>
  if handler then .returned (.int 1) else .raised (.valueError "gone")

end Letters

end Stepwise
