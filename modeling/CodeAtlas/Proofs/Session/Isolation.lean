import CodeAtlas.Session
import Mathlib.Data.List.Induction
import Mathlib.Logic.Function.Basic

/-!
# Clients of a session

Any number of clients share a session. A question is put in two steps, taking the current context
and answering from it, and so is a rebuild, building a context and putting it in place; between the
two, other clients may do anything.

1. `Step`, `Run`: what the clients may do, and all that they did from the start on.
2. `rebuild_of_steps`: the two steps of a rebuild, with nothing between them, are a rebuild.
3. `takenBefore_of_run`: a client answers from what was current when it took a context.
4. `swaps_of_run`: the contexts given back are those that were in place, each once.
5. `isolated_of_run`: what clients do in between does not change how a client is served.
-/

namespace CodeAtlas

/-- What a client has begun. -/
inductive Errand where
  | idle
  /-- It is going to answer a question from a context that it has taken. -/
  | asking (question : String) (context : Context)
  /-- It is going to put a context in place that it has built. -/
  | installing (context : Context)

/-- What is left to do of a rebuild after the build: nothing if it failed. -/
def Errand.ofBuild : Except Error Context → Errand
  | .ok context => .installing context
  | .error _ => .idle

/-- A session and what its clients have begun. -/
structure Service (Client : Type) where
  session : Session
  errand : Client → Errand

namespace Service

/-- What a client does. -/
inductive Event (Client : Type) where
  | takes (who : Client) (question : String)
  | answers (who : Client) (question : String) (answer : Answer)
  | builds (who : Client) (config : Config) (findings : Findings)
  /-- It puts a context in place, and another is given back. -/
  | swaps (who : Client) (context returned : Context)

variable {Client : Type}

def Event.who : Event Client → Client
  | takes who _ | answers who _ _ | builds who _ _ | swaps who _ _ => who

/-- The contexts that are put in place. -/
def installed (es : List (Event Client)) : List Context :=
  es.filterMap fun
    | .swaps _ context _ => some context
    | _ => none

/-- The contexts that are given back. -/
def returned (es : List (Event Client)) : List Context :=
  es.filterMap fun
    | .swaps _ _ returned => some returned
    | _ => none

/-- A session that no client has used. -/
def start (s : Session) : Service Client := ⟨s, fun _ => .idle⟩

variable [DecidableEq Client]

def setErrand (σ : Service Client) (who : Client) (errand : Errand) : Service Client :=
  { σ with errand := Function.update σ.errand who errand }

/-- What may be done next. -/
inductive Step : Service Client → Event Client → Service Client → Prop where
  | takes {σ : Service Client} {who : Client} (free : σ.errand who = .idle) (question : String) :
      Step σ (.takes who question) (σ.setErrand who (.asking question σ.session.current))
  | answers {σ : Service Client} {who : Client} {question : String} {context : Context}
      (asks : σ.errand who = .asking question context) :
      Step σ (.answers who question (σ.session.responder.answer context question))
        (σ.setErrand who .idle)
  | builds {σ : Service Client} {who : Client} (free : σ.errand who = .idle) (config : Config)
      (findings : Findings) :
      Step σ (.builds who config findings)
        (σ.setErrand who (.ofBuild (config.contextOf findings)))
  | installs {σ : Service Client} {who : Client} {context : Context}
      (built : σ.errand who = .installing context) :
      Step σ (.swaps who context (σ.session.replace context).1)
        { σ.setErrand who .idle with session := (σ.session.replace context).2 }
  | replaces {σ : Service Client} {who : Client} (free : σ.errand who = .idle) (context : Context) :
      Step σ (.swaps who context (σ.session.replace context).1)
        { σ with session := (σ.session.replace context).2 }

/-- What was done from the start on, in order, and what it led to. -/
inductive Run (s : Session) : List (Event Client) → Service Client → Prop where
  | start : Run s [] (start s)
  | next {es : List (Event Client)} {e : Event Client} {σ σ' : Service Client} (run : Run s es σ)
      (step : Step σ e σ') : Run s (es ++ [e]) σ'

variable {s : Session} {es es' : List (Event Client)} {e : Event Client} {σ σ' : Service Client}
  {who : Client}

theorem Run.of_concat (run : Run s (es ++ [e]) σ') : ∃ σ, Run s es σ ∧ Step σ e σ' := by
  generalize all : es ++ [e] = es' at run
  cases run with
  | start => exact absurd all (by simp)
  | next run step =>
    obtain ⟨rfl, rfl⟩ := List.append_singleton_inj.1 all
    exact ⟨_, run, step⟩

/-- A run stopped early is a run. -/
theorem Run.of_append (run : Run s (es ++ es') σ') : ∃ σ, Run s es σ := by
  induction es' using List.reverseRecOn generalizing σ' with
  | nil => exact ⟨σ', by rwa [List.append_nil] at run⟩
  | append_singleton es' e ih =>
    rw [← List.append_assoc] at run
    obtain ⟨_, run, -⟩ := run.of_concat
    exact ih run

/-! ## One step -/

theorem Step.responder (step : Step σ e σ') : σ'.session.responder = σ.session.responder := by
  cases step <;> rfl

/-- A step leaves what other clients have begun. -/
theorem Step.errand_of_ne (step : Step σ e σ') (other : e.who ≠ who) :
    σ'.errand who = σ.errand who := by
  cases step with
  | replaces => rfl
  | _ => exact Function.update_of_ne other.symm ..

theorem setErrand_self (errand : Errand) : (σ.setErrand who errand).errand who = errand :=
  Function.update_self ..

/-- A client is going to answer from a context only after it took the current one. -/
theorem Step.asking {question : String} {context : Context} (step : Step σ e σ')
    (asks : σ'.errand e.who = .asking question context) :
    e = .takes e.who question ∧ context = σ.session.current := by
  cases step with
  | takes =>
    have same := (setErrand_self _).symm.trans asks
    cases same
    exact ⟨rfl, rfl⟩
  | answers => exact nomatch (setErrand_self _).symm.trans asks
  | builds _ config findings =>
    have same := (setErrand_self _).symm.trans asks
    cases made : config.contextOf findings <;> (rw [made] at same; cases same)
  | installs => exact nomatch (setErrand_self _).symm.trans asks
  | replaces free => exact nomatch free.symm.trans asks

/-- A build that fails changes nothing at all. -/
theorem Step.failed {config : Config} {findings : Findings} {error : Error}
    (failed : config.contextOf findings = .error error)
    (step : Step σ (.builds who config findings) σ') : σ' = σ := by
  cases step with
  | builds free =>
    rw [failed, Errand.ofBuild, setErrand, ← free, Function.update_eq_self]

/-- A build and then the swap of what was built are a rebuild. -/
theorem rebuild_of_steps {config : Config} {findings : Findings} {context returned : Context}
    {σ'' : Service Client} (made : config.contextOf findings = .ok context)
    (builds : Step σ (.builds who config findings) σ')
    (swaps : Step σ' (.swaps who context returned) σ'') :
    σ.session.rebuild config findings = .ok σ''.session := by
  have kept : σ'.session = σ.session := by
    cases builds
    rfl
  rw [Session.rebuild, made, ← kept]
  cases swaps <;> rfl

/-! ## Runs -/

theorem responder_of_run (run : Run s es σ) : σ.session.responder = s.responder := by
  induction run with
  | start => rfl
  | next _ step ih => rw [step.responder, ih]

/-- Whether a context is the one that was current when a client last took one, for a question. -/
def TakenBefore (s : Session) (es : List (Event Client)) (who : Client) (question : String)
    (context : Context) : Prop :=
  ∃ earlier since taken, es = earlier ++ .takes who question :: since ∧
    (∀ e ∈ since, e.who ≠ who) ∧ Run s earlier taken ∧ context = taken.session.current

/-- What a client is going to answer from is what was current when it was taken. -/
theorem takenBefore_of_run {question : String} {context : Context} (run : Run s es σ)
    (asks : σ.errand who = .asking question context) : TakenBefore s es who question context := by
  induction run with
  | start => cases asks
  | @next es e σ σ' run step ih =>
    by_cases own : e.who = who
    · subst own
      obtain ⟨took, current⟩ := step.asking asks
      refine ⟨es, [], σ, ?_, fun _ mem => absurd mem List.not_mem_nil, run, current⟩
      rw [← took]
    · rw [step.errand_of_ne own] at asks
      obtain ⟨earlier, since, taken, rfl, others, before, current⟩ := ih asks
      refine ⟨earlier, since ++ [e], taken, by simp, fun e' mem => ?_, before, current⟩
      obtain mem | mem := List.mem_append.1 mem
      · exact others e' mem
      · exact List.mem_singleton.1 mem ▸ own

/-- A swap gives back what was current. -/
theorem Step.swaps (step : Step σ e σ') :
    returned [e] ++ [σ'.session.current] = [σ.session.current] ++ installed [e] := by
  cases step <;> rfl

/-- What is given back is what was put in place before, each once and in order. -/
theorem swaps_of_run (run : Run s es σ) :
    returned es ++ [σ.session.current] = s.current :: installed es := by
  induction run with
  | start => rfl
  | @next es e σ σ' _ step ih =>
    calc returned (es ++ [e]) ++ [σ'.session.current]
      _ = returned es ++ (returned [e] ++ [σ'.session.current]) := by
        rw [returned, List.filterMap_append, List.append_assoc]
        rfl
      _ = (returned es ++ [σ.session.current]) ++ installed [e] := by
        rw [step.swaps, List.append_assoc]
      _ = s.current :: installed (es ++ [e]) := by
        rw [ih, installed, installed, installed, List.filterMap_append]
        rfl

/-- **Sessions keep clients apart.** Whatever the clients of a session do and in whatever order,

* each answer is the answer from the context that was current when its question took one, whatever
  has been put in place since then;
* a rebuild whose build fails changes nothing;
* the contexts that were given back, and then the current one, are the first context and then those
  put in place, in the order of the swaps. -/
theorem isolated_of_run (run : Run s es σ) :
    (∀ before after who question answer, es = before ++ .answers who question answer :: after →
      ∃ earlier since taken, before = earlier ++ .takes who question :: since ∧
        (∀ e ∈ since, e.who ≠ who) ∧ Run s earlier taken ∧
        answer = s.responder.answer taken.session.current question) ∧
    (∀ who config findings error, config.contextOf findings = .error error →
      σ.session.rebuild config findings = .error error ∧
        ∀ σ', Step σ (.builds who config findings) σ' → σ' = σ) ∧
    returned es ++ [σ.session.current] = s.current :: installed es := by
  refine ⟨?_, ?_, swaps_of_run run⟩
  · rintro before after who question answer rfl
    rw [List.append_cons] at run
    obtain ⟨_, upTo⟩ := run.of_append
    obtain ⟨asking, began, step⟩ := upTo.of_concat
    cases step with
    | answers asks =>
      obtain ⟨earlier, since, taken, split, others, first, rfl⟩ := takenBefore_of_run began asks
      refine ⟨earlier, since, taken, split, others, first, ?_⟩
      rw [responder_of_run began]
  · intro who config findings error failed
    refine ⟨?_, fun σ' => Step.failed failed⟩
    rw [Session.rebuild, failed]
    rfl

/-- While a client is asking, another puts a new context in place and a third fails to. The first is
still answered from the old context, which is given back. -/
theorem isolated_of_run_swapped :
    let config : Config := {}
    let inventory : Findings := Findings.empty.insert (.structural ⟨"walker", 0, ⟨[], ["a.rs"]⟩⟩)
    let s : Session := ⟨⟨.empty, .empty, {}⟩, config.responder⟩
    ∃ context σ, config.contextOf inventory = .ok context ∧
      Run s [.takes 0 "stats", .builds 1 config inventory, .builds 2 config .empty,
        .swaps 1 context s.current, .answers 0 "stats" (s.answer "stats")] σ ∧
      [s.current, σ.session.current] = [s.current, context] ∧
      (∀ σ', Step σ (.builds 2 config .empty) σ' → σ' = σ) ∧
      ∃ earlier since taken,
        [.takes 0 "stats", .builds 1 config inventory, .builds 2 config .empty,
          .swaps 1 context s.current] = earlier ++ .takes 0 "stats" :: since ∧
        Run s earlier taken ∧
        s.answer "stats" = s.responder.answer taken.session.current "stats" := by
  intro config inventory s
  obtain ⟨context, made⟩ : ∃ context, config.contextOf inventory = .ok context := ⟨_, rfl⟩
  have taken : Run s _ _ := Run.start.next (@Step.takes Nat _ _ 0 rfl "stats")
  have built := taken.next (@Step.builds Nat _ _ 1 rfl config inventory)
  have failed := built.next (@Step.builds Nat _ _ 2 rfl config .empty)
  have swapped := failed.next (@Step.installs Nat _ _ 1 context (congrArg Errand.ofBuild made))
  have run : Run s [.takes 0 "stats", .builds 1 config inventory, .builds 2 config .empty,
      .swaps 1 context s.current, .answers 0 "stats" (s.answer "stats")] _ :=
    swapped.next (@Step.answers Nat _ _ 0 "stats" s.current rfl)
  obtain ⟨answers, builds, swaps⟩ := isolated_of_run run
  obtain ⟨earlier, since, first, split, -, before, same⟩ := answers
    [.takes 0 "stats", .builds 1 config inventory, .builds 2 config .empty,
      .swaps 1 context s.current] [] 0 "stats" _ rfl
  exact ⟨context, _, made, run, swaps, (builds 2 config .empty _ rfl).2,
    earlier, since, first, split, before, same⟩

end Service

end CodeAtlas
