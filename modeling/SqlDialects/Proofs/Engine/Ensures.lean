import SqlDialects.Schema.Transaction

/-!
# What a program ensures

An engine may answer as it likes, so what is true of a program is true whatever the answers are.
`Program.Ensures` says that a relation between the result and the trace holds in every run, and its
rules follow the tree:

* **Leaves** ensure what is true of their result and an empty trace (`Program.Ensures.done`).
* **Calls** ensure what each answer leads to (`Program.Ensures.ask`).
* **Sequences** ensure what the second program makes of the first one's result
  (`Program.Ensures.andThen`, and `Program.Ensures.bind` where the first one may fail).

Most of a trace is bookkeeping.  What changes the tables are the statements that the engine has
executed without an error, and `executedStatements` reads them off.
-/

set_option autoImplicit false

namespace SqlDialects

namespace Program

variable {α β : Type}

/-- **Whatever the engine answers**, the result and the trace are related. -/
def Ensures (p : Program α) (post : α → List Exchange → Prop) : Prop :=
  ∀ (σ : Type) (engine : Engine σ) (s : σ), post (p.run engine s).1 (p.run engine s).2.1

namespace Ensures

variable {post : α → List Exchange → Prop}

theorem done {a : α} (h : post a []) : (Program.done a).Ensures post :=
  fun _ _ _ => h

theorem ask {call : Call} {next : call.Answer → Program α}
    (h : ∀ answer, (next answer).Ensures fun a trace => post a (⟨call, answer⟩ :: trace)) :
    (Program.ask call next).Ensures post :=
  fun σ engine s => h (engine.answer call s).1 σ engine (engine.answer call s).2

theorem trivial (p : Program α) : p.Ensures fun _ _ => True :=
  fun _ _ _ => True.intro

theorem mono {p : Program α} {weaker : α → List Exchange → Prop} (h : p.Ensures post)
    (hle : ∀ a trace, post a trace → weaker a trace) : p.Ensures weaker :=
  fun σ engine s => hle _ _ (h σ engine s)

theorem andThen {p : Program α} {f : α → Program β} {final : β → List Exchange → Prop}
    (hp : p.Ensures post)
    (hf : ∀ a first, post a first → (f a).Ensures fun b second => final b (first ++ second)) :
    (p.andThen f).Ensures final := by
  intro σ engine s
  rw [run_andThen]
  exact hf _ _ (hp σ engine s) σ engine _

/-! ### Actions -/

/-- A call whose failure is that of the action. -/
theorem call {call : Call} {h : call.Answer = Except SqlError α}
    {post : Except SqlError α → List Exchange → Prop}
    (hpost : ∀ answer, post (h ▸ answer) [⟨call, answer⟩]) :
    (Action.ask call h).run.Ensures post :=
  ask fun answer => done (hpost answer)

/-- An action and what is done with its result, which is nothing if it has failed. -/
theorem bind {x : Action α} {f : α → Action β} {post : Except SqlError α → List Exchange → Prop}
    {final : Except SqlError β → List Exchange → Prop} (hx : x.run.Ensures post)
    (hok : ∀ a first, post (.ok a) first →
      (f a).run.Ensures fun b second => final b (first ++ second))
    (herror : ∀ e first, post (.error e) first → final (.error e) first) :
    (x >>= f).run.Ensures final := by
  refine andThen hx fun outcome first h => ?_
  cases outcome with
  | ok a => exact hok a first h
  | error e =>
    refine done ?_
    rw [List.append_nil]
    exact herror e first h

/-- A step that is settled without the engine, and what is done with its result. -/
theorem settled_bind {x : Except SqlError α} {f : α → Action β}
    {post : Except SqlError β → List Exchange → Prop}
    (hok : ∀ a, x = .ok a → (f a).run.Ensures post)
    (herror : ∀ e, x = .error e → post (.error e) []) :
    ((liftM x : Action α) >>= f).run.Ensures post := by
  cases x with
  | ok a => exact hok a rfl
  | error e => exact done (herror e rfl)

/-- An action that goes on whether or not it has failed. -/
theorem attempt {x : Action α}
    {post : Except SqlError (Except SqlError α) → List Exchange → Prop}
    (hx : x.run.Ensures fun outcome trace => post (.ok outcome) trace) :
    x.attempt.run.Ensures post := by
  refine andThen hx fun outcome first h => done ?_
  rw [List.append_nil]
  exact h

/-- What is done after an action, be it that it has failed. -/
theorem attempt_bind {x : Action α} {f : Except SqlError α → Action β}
    {post : Except SqlError α → List Exchange → Prop}
    {final : Except SqlError β → List Exchange → Prop} (hx : x.run.Ensures post)
    (hf : ∀ outcome first, post outcome first →
      (f outcome).run.Ensures fun b second => final b (first ++ second)) :
    (x.attempt >>= f).run.Ensures final := by
  have hattempt : x.attempt.run.Ensures fun outcome trace =>
      ∃ result, outcome = .ok result ∧ post result trace :=
    attempt (hx.mono fun result _ h => ⟨result, rfl, h⟩)
  refine bind hattempt ?_ ?_
  · rintro _ first ⟨result, hresult, h⟩
    obtain rfl := Except.ok.inj hresult
    exact hf _ first h
  · rintro e first ⟨result, he, _⟩
    contradiction

end Ensures

end Program

/-! ## Executed statements -/

/-- The statement that an exchange has executed, if it is such an exchange and has succeeded. -/
def executed? : Exchange → Option String
  | ⟨.execute _ command, Except.ok _⟩ => some command.text
  | _ => none

/-- The statements that have been executed without an error, in order. -/
def executedStatements (trace : List Exchange) : List String := trace.filterMap executed?

@[simp] theorem executedStatements_nil : executedStatements [] = [] := rfl

@[simp] theorem executedStatements_append (first second : List Exchange) :
    executedStatements (first ++ second) = executedStatements first ++ executedStatements second :=
  List.filterMap_append

theorem executedStatements_cons (exchange : Exchange) (trace : List Exchange) :
    executedStatements (exchange :: trace) =
      (executed? exchange).toList ++ executedStatements trace := by
  rw [executedStatements, List.filterMap_cons]
  cases executed? exchange <;> rfl

/-! ## Given commands -/

/-- The command that an exchange gives to the engine, whether or not it succeeds. -/
def command? : Exchange → Option Command
  | ⟨.execute _ command, _⟩ => some command
  | _ => none

/-- The commands that have been given to the engine, in order. -/
def givenCommands (trace : List Exchange) : List Command := trace.filterMap command?

@[simp] theorem givenCommands_nil : givenCommands [] = [] := rfl

@[simp] theorem givenCommands_append (first second : List Exchange) :
    givenCommands (first ++ second) = givenCommands first ++ givenCommands second :=
  List.filterMap_append

theorem givenCommands_cons (exchange : Exchange) (trace : List Exchange) :
    givenCommands (exchange :: trace) = (command? exchange).toList ++ givenCommands trace := by
  rw [givenCommands, List.filterMap_cons]
  cases command? exchange <;> rfl

/-! ## Programs that give no command -/

/-- A program that gives no command, whatever the engine answers. -/
def Program.GivesNone {α : Type} (p : Program α) : Prop :=
  p.Ensures fun _ trace => givenCommands trace = []

namespace Program.GivesNone

variable {α β : Type}

theorem done (a : α) : (Program.done a).GivesNone := Ensures.done rfl

theorem andThen {p : Program α} {f : α → Program β} (hp : p.GivesNone)
    (hf : ∀ a, (f a).GivesNone) : (p.andThen f).GivesNone := by
  refine Ensures.andThen hp fun a first hfirst => Ensures.mono (hf a) fun b second hsecond => ?_
  rw [givenCommands_append, hfirst, hsecond]
  rfl

/-- The steps of an action. -/
theorem bind {x : Action α} {f : α → Action β} (hx : x.run.GivesNone)
    (hf : ∀ a, (f a).run.GivesNone) : (x >>= f).run.GivesNone := by
  refine hx.andThen fun outcome => ?_
  cases outcome with
  | error e => exact .done _
  | ok a => exact hf a

theorem attempt {x : Action α} (hx : x.run.GivesNone) : x.attempt.run.GivesNone :=
  hx.andThen fun _ => .done _

end Program.GivesNone

/-- Steps that give no command leave those of the action before them. -/
theorem givenCommands_bind {σ α β : Type} {f : α → Action β} (hf : ∀ a, (f a).run.GivesNone)
    (x : Action α) (engine : Engine σ) (s : σ) :
    givenCommands ((x >>= f).run.run engine s).2.1 = givenCommands (x.run.run engine s).2.1 := by
  have hnone : ∀ outcome, (ExceptT.bindCont f outcome).GivesNone := by
    intro outcome
    cases outcome with
    | error e => exact .done _
    | ok a => exact hf a
  have htrace := Program.run_andThen engine x.run (ExceptT.bindCont f) s
  show givenCommands ((x.run.andThen (ExceptT.bindCont f)).run engine s).2.1 = _
  rw [htrace, givenCommands_append, hnone _ σ engine _, List.append_nil]

/-! ## Connections -/

/-- An action on a connection of its own, as a tree. -/
theorem run_withConnection_none {α : Type} (database : Option String)
    (action : Connection → Action α) :
    (withConnection database none action).run =
      .ask (.openConnection database) fun
        | Except.error e => .done (.error e)
        | Except.ok c => (action c).run.andThen fun outcome =>
          .ask (.close c) fun _ => .done outcome := by
  refine congrArg (Program.ask _) (funext fun answer => ?_)
  cases answer <;> rfl

/-- What an action ensures, it also ensures on a connection that is opened for it, as far as opening
and closing are of no account. -/
theorem withConnection_ensures_around {α : Type} {database : Option String}
    {transaction : Option Transaction} {action : Connection → Action α}
    {post : Except SqlError α → List Exchange → Prop}
    (hopen : ∀ e, post (.error e) [⟨.openConnection database, .error e⟩])
    (haround : ∀ c outcome trace, post outcome trace →
      post outcome (⟨.openConnection database, .ok c⟩ :: (trace ++ [⟨.close c, ()⟩])))
    (haction : ∀ c, (action c).run.Ensures post) :
    (withConnection database transaction action).run.Ensures post := by
  cases transaction with
  | some t => exact haction t.connection
  | none =>
    rw [run_withConnection_none]
    refine .ask fun answer => ?_
    cases answer with
    | error e => exact .done (hopen e)
    | ok c =>
      refine .andThen (haction c) fun outcome trace hpost => .ask fun _ => .done ?_
      exact haround c outcome trace hpost

/-- **Opening and closing executes nothing**: what an action ensures about the statements executed,
it also ensures on a connection that is opened for it, where that may fail. -/
theorem withConnection_ensures {α : Type} {database : Option String}
    {transaction : Option Transaction} {action : Connection → Action α}
    (post : Except SqlError α → List String → Prop) (hopen : ∀ e, post (.error e) [])
    (haction : ∀ c, (action c).run.Ensures fun outcome trace =>
      post outcome (executedStatements trace)) :
    (withConnection database transaction action).run.Ensures fun outcome trace =>
      post outcome (executedStatements trace) := by
  refine withConnection_ensures_around hopen (fun c outcome trace hpost => ?_) haction
  simpa [executedStatements_cons, executed?] using hpost

end SqlDialects
