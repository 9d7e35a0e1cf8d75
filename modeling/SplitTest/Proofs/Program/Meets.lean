import SplitTest.Workplace

namespace SplitTest

namespace Program

variable {α β : Type}

def Meets (law : History → Request → Prop) :
    (History → Except Fault α → Prop) → Program α → History → Prop
  | fit, done result, h => fit h result
  | fit, ask request next, h =>
    law h request ∧ ∀ reply, (next reply).Meets law fit (⟨request, reply⟩ :: h)

variable {law : History → Request → Prop} {fit : History → Except Fault β → Prop}

@[simp] theorem meets_done {result : Except Fault β} {h : History} :
    (done result).Meets law fit h ↔ fit h result := Iff.rfl

theorem meets_ask {request : Request} {next : Except Fault request.Reply → Program β}
    {h : History} : (ask request next).Meets law fit h ↔
      law h request ∧ ∀ reply, (next reply).Meets law fit (⟨request, reply⟩ :: h) := Iff.rfl

def andThen (law : History → Request → Prop) (f : α → Program β)
    (fit : History → Except Fault β → Prop) (h : History) : Except Fault α → Prop
  | .ok a => (f a).Meets law fit h
  | .error fault => fit h (.error fault)

def orElse (law : History → Request → Prop) (recover : Fault → Program β)
    (fit : History → Except Fault β → Prop) (h : History) : Except Fault β → Prop
  | .ok b => fit h (.ok b)
  | .error fault => (recover fault).Meets law fit h

theorem meets_bind (p : Program α) (f : α → Program β) (h : History) :
    (p >>= f).Meets law fit h ↔ p.Meets law (andThen law f fit) h := by
  induction p generalizing h with
  | done result => cases result <;> rfl
  | ask request next ih => simp only [ask_bind, meets_ask, ih]

theorem meets_handle (p : Program β) (recover : Fault → Program β) (h : History) :
    (p.handle recover).Meets law fit h ↔ p.Meets law (orElse law recover fit) h := by
  induction p generalizing h with
  | done result => cases result <;> rfl
  | ask request next ih => simp only [handle, meets_ask, ih]

theorem map_eq_bind (g : α → β) (p : Program α) :
    g <$> p = p >>= fun a => done (.ok (g a)) := map_eq_pure_bind g p

theorem run_map {σ : Type} (reply : Surroundings σ) (g : α → β) (p : Program α) (s : σ) :
    (g <$> p).run reply s = ((p.run reply s).1.map g, (p.run reply s).2) := by
  rw [map_eq_bind, run_bind]
  rcases p.run reply s with ⟨fault | a, s'⟩
  · rfl
  · rfl

theorem meets_map (g : α → β) (p : Program α) (h : History) :
    (g <$> p).Meets law fit h ↔ p.Meets law (fun h result => fit h (result.map g)) h := by
  rw [map_eq_bind]
  induction p generalizing h with
  | done result => cases result <;> rfl
  | ask request next ih => simp only [ask_bind, meets_ask, ih]

theorem meets_request (r : Request) (f : r.Reply → Program β) (h : History) :
    (request r >>= f).Meets law fit h ↔
      law h r ∧ (∀ reply, (f reply).Meets law fit (⟨r, .ok reply⟩ :: h)) ∧
        ∀ fault, fit (⟨r, .error fault⟩ :: h) (.error fault) := by
  rw [meets_bind, request, meets_ask]
  constructor
  · rintro ⟨lawful, replied⟩
    exact ⟨lawful, fun reply => replied (.ok reply), fun fault => replied (.error fault)⟩
  · rintro ⟨lawful, replied, broken⟩
    refine ⟨lawful, fun reply => ?_⟩
    cases reply with
    | ok reply => exact replied reply
    | error fault => exact broken fault

theorem Meets.mono {law' : History → Request → Prop}
    {fit' : History → Except Fault β → Prop} {p : Program β} {h : History}
    (lawful : ∀ h r, law h r → law' h r) (fits : ∀ h result, fit h result → fit' h result)
    (m : p.Meets law fit h) : p.Meets law' fit' h := by
  induction p generalizing h with
  | done result => exact fits h result m
  | ask request next ih => exact ⟨lawful h request m.1, fun reply => ih reply (m.2 reply)⟩

theorem Meets.run {σ : Type} {reply : Surroundings σ} {p : Program β} {h : History} {s : σ}
    (tells : History → σ → Prop)
    (kept : ∀ h r s, law h r → tells h s → tells (⟨r, (reply r s).1⟩ :: h) (reply r s).2)
    (m : p.Meets law fit h) (told : tells h s) :
    ∃ h', tells h' (p.run reply s).2 ∧ fit h' (p.run reply s).1 := by
  induction p generalizing h s with
  | done result => exact ⟨h, told, m⟩
  | ask request next ih => exact ih _ (m.2 _) (kept h request s m.1 told)

theorem Meets.run_both {σ : Type} {reply : Surroundings σ} {p : Program β} {h : History} {s t : σ}
    (agree : History → σ → σ → Prop)
    (kept : ∀ h r s t, law h r → agree h s t → (reply r s).1 = (reply r t).1 ∧
      agree (⟨r, (reply r s).1⟩ :: h) (reply r s).2 (reply r t).2)
    (m : p.Meets law fit h) (told : agree h s t) :
    (p.run reply s).1 = (p.run reply t).1 ∧
      ∃ h', agree h' (p.run reply s).2 (p.run reply t).2 := by
  induction p generalizing h s t with
  | done result => exact ⟨rfl, h, told⟩
  | ask request next ih =>
    obtain ⟨same, told⟩ := kept h request s t m.1 told
    rw [run_ask, run_ask, ← same]
    exact ih _ (m.2 _) told

theorem meets_free (p : Program β) (h : History) :
    p.Meets (fun _ _ => True) (fun _ _ => True) h := by
  induction p generalizing h with
  | done result => trivial
  | ask request next ih => exact ⟨trivial, fun reply => ih reply _⟩

end Program

namespace Operation

variable {α β : Type}

/-- What is asked of an operation at each of its three ends: of a value, of an error it turns its
call down with, and of a breakdown. -/
def ends (bad : History → Error → Prop) (down : History → Fault → Prop)
    (good : History → α → Prop) (h : History) : Except Fault (Outcome α) → Prop
  | .ok (.ok a) => good h a
  | .ok (.error e) => bad h e
  | .error fault => down h fault

def Meets (law : History → Request → Prop) (bad : History → Error → Prop)
    (down : History → Fault → Prop) (good : History → α → Prop) (op : Operation α)
    (h : History) : Prop :=
  op.run.Meets law (ends bad down good) h

variable {law : History → Request → Prop} {bad : History → Error → Prop}
  {down : History → Fault → Prop} {good : History → β → Prop} {h : History}

theorem Meets.mono {good' : History → β → Prop} {op : Operation β}
    (m : op.Meets law bad down good h) (shows : ∀ h b, good h b → good' h b) :
    op.Meets law bad down good' h := by
  refine Program.Meets.mono (fun _ _ lawful => lawful) ?_ m
  rintro h (fault | e | b) ends
  · exact ends
  · exact ends
  · exact shows h b ends

theorem meets_bind (op : Operation α) (f : α → Operation β) :
    (op >>= f).Meets law bad down good h ↔
      op.Meets law bad down (fun h a => (f a).Meets law bad down good h) h := by
  rw [Meets, ExceptT.run_bind, Program.meets_bind, Meets]
  constructor
  all_goals
    apply Program.Meets.mono (fun _ _ lawful => lawful)
    rintro h (fault | e | a) fits
    all_goals exact fits

@[simp] theorem meets_ofOutcome (outcome : Outcome β) :
    (ofOutcome outcome).Meets law bad down good h ↔
      (∀ b, outcome = .ok b → good h b) ∧ ∀ e, outcome = .error e → bad h e := by
  cases outcome <;> simp [Meets, ofOutcome, ends, ExceptT.run, ExceptT.mk]

@[simp] theorem meets_ofExcept (result : Except Invalid β) :
    (ofExcept result).Meets law bad down good h ↔
      (∀ b, result = .ok b → good h b) ∧
        ∀ cause, result = .error cause → down h (.invalid cause) := by
  rw [Meets, ofExcept, ExceptT.run_lift, Program.meets_map]
  cases result with
  | ok b =>
    constructor
    · intro shown
      exact ⟨by rintro _ ⟨⟩; exact shown, by rintro _ ⟨⟩⟩
    · intro shown
      exact shown.1 b rfl
  | error cause =>
    constructor
    · intro broken
      exact ⟨by rintro _ ⟨⟩, by rintro _ ⟨⟩; exact broken⟩
    · intro broken
      exact broken.2 cause rfl

theorem meets_request (r : Request) (good : History → r.Reply → Prop) :
    (request r).Meets law bad down good h ↔
      law h r ∧ (∀ reply, good (⟨r, .ok reply⟩ :: h) reply) ∧
        ∀ fault, down (⟨r, .error fault⟩ :: h) fault := by
  rw [Meets, request, ExceptT.run_lift, Program.map_eq_bind, Program.meets_request]
  rfl

end Operation

section Run

variable {α β σ : Type} {reply : Program.Surroundings σ} {s s' s'' : σ}

namespace Operation

theorem run_request (r : Request) (s : σ) :
    (request r).run.run reply s = ((reply r s).1.map .ok, (reply r s).2) := by
  rw [request, ExceptT.run_lift, Program.run_map, Program.request, Program.run_ask,
    Program.run_done]

theorem run_bind_of_ok {op : Operation β} {f : β → Operation α} {b : β}
    (ran : op.run.run reply s = (.ok (.ok b), s')) :
    (op >>= f).run.run reply s = (f b).run.run reply s' := by
  rw [ExceptT.run_bind, Program.run_bind, ran]

end Operation

namespace Transaction

variable {component operation : String} {body : Operation α}

theorem run_of_ok {a : α} (ran : body.run.run reply s = (.ok (.ok a), s'))
    (committed : reply .commit s' = (.ok (), s'')) :
    (run component operation body).run reply s = (.ok (.ok a), s'') := by
  rw [run, Program.run_handle, Program.run_bind, ran]
  simp only [conclude, Program.request, Program.run_bind, Program.run_ask, Program.run_done,
    committed]
  rfl

theorem run_of_error {e : Error} (ran : body.run.run reply s = (.ok (.error e), s'))
    (rolled : reply .rollback s' = (.ok (), s'')) :
    (run component operation body).run reply s = (.ok (.error e), s'') := by
  rw [run, Program.run_handle, Program.run_bind, ran]
  simp only [conclude, Program.request, Program.run_bind, Program.run_ask, Program.run_done, rolled]
  rfl

theorem run_of_fault {fault : Fault} (ran : body.run.run reply s = (.error fault, s')) :
    (run component operation body).run reply s =
      (recover component operation fault).run reply s' := by
  rw [run, Program.run_handle, Program.run_bind, ran]

end Transaction

end Run

end SplitTest
