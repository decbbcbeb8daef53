import ProxyControl.Proofs.Preference.RunTrace
import ProxyControl.Proofs.Preference.Witness

/-!
# What is kept around a credential

A run asks for a credential first and gives it back last.  What a backend's calls keep while a
credential is held therefore holds up to the end of the run, whichever way it ends.  The backend is
arbitrary, so others may come between the calls.

Main results:

- Predicate `Session.Keeps`: every call of a session keeps a fact.
- Theorem `Session.Keeps.runSession`: so does the part of a run inside the session.
- Structure `SystemPreferences.Brackets`: facts before, during and after the time in which a
  credential is held.
- Theorem `SystemPreferences.Brackets.run`: a run leads from the first to the last.
- Relation `Enclosed`: calls that begin with a request for a credential and end with its return.
- Theorem `SystemPreferences.Brackets.run_recorded`: the calls of a run are such.
-/

namespace ProxyControl

/-! ## Sessions -/

/-- Every call of a session keeps a fact. -/
structure Session.Keeps {τ : Type} (s : Session τ) (P : τ → Prop) : Prop where
  value : ∀ key x, P x → P (s.value key x).2
  setPath : ∀ path dict x, P x → P (s.setPath path dict x).2
  commit : ∀ x, P x → P (s.commit x).2
  apply : ∀ x, P x → P (s.apply x).2
  synchronize : ∀ x, P x → P (s.synchronize x)

namespace Session.Keeps

variable {τ : Type} {s : Session τ} {P : τ → Prop}

/-- A session goes as itself, and the fact stays true. -/
theorem follows (h : s.Keeps P) : s.Follows s fun x x' => x' = x ∧ P x where
  value key x _ hx := by
    obtain ⟨rfl, hx⟩ := hx
    exact ⟨rfl, rfl, h.value key _ hx⟩
  setPath path dict x _ hx := by
    obtain ⟨rfl, hx⟩ := hx
    exact ⟨rfl, rfl, h.setPath path dict _ hx⟩
  commit x _ hx := by
    obtain ⟨rfl, hx⟩ := hx
    exact ⟨rfl, rfl, h.commit _ hx⟩
  apply x _ hx := by
    obtain ⟨rfl, hx⟩ := hx
    exact ⟨rfl, rfl, h.apply _ hx⟩
  synchronize x _ hx := by
    obtain ⟨rfl, hx⟩ := hx
    exact ⟨rfl, h.synchronize _ hx⟩

theorem runSession (h : s.Keeps P) (port : UInt16) {x : τ} (hx : P x) :
    P (Synchronizer.runSession s port x).state :=
  (h.follows.runSession port ⟨rfl, hx⟩).2.2.2

end Session.Keeps

/-! ## Runs -/

/-- Facts that the calls of a backend lead from one to the next: before a credential is asked for,
while it is held, once it was denied, and once it was given back. -/
structure SystemPreferences.Brackets {σ α ς : Type} (p : SystemPreferences σ α ς)
    (before held denied settled : σ → Prop) : Prop where
  denied : ∀ {st st' status}, before st → p.authorize .sync st = (.error status, st') → denied st'
  granted : ∀ {st st' credential}, before st → p.authorize .sync st = (.ok credential, st') →
    held st'
  openSession : ∀ name credential st, held st → held (p.openSession name credential st).2
  session : p.session.Keeps fun x => held x.2
  close : ∀ session st, held st → held (p.close session st)
  release : ∀ credential st, held st → settled (p.release credential st)

namespace SystemPreferences.Brackets

variable {σ α ς : Type} {p : SystemPreferences σ α ς} {before held denied settled : σ → Prop}

/-- A run that is denied a credential ends there; every other run gives it back. -/
theorem run (h : p.Brackets before held denied settled) (port : UInt16) {st : σ}
    (hst : before st) :
    ((∃ status, (Synchronizer.run p port st).result = .error (.authorization status)) ∧
        denied (Synchronizer.run p port st).state) ∨
      settled (Synchronizer.run p port st).state := by
  rcases hauthorize : p.authorize .sync st with ⟨status | credential, st₁⟩
  · obtain ⟨hresult, hstate⟩ := Synchronizer.run_of_denied port hauthorize
    rw [hresult, hstate]
    exact .inl ⟨⟨status, rfl⟩, h.denied hst hauthorize⟩
  right
  have hheld := h.openSession Synchronizer.sessionName credential st₁ (h.granted hst hauthorize)
  rcases hopen : p.openSession Synchronizer.sessionName credential st₁ with ⟨cause | session, st₂⟩
  · rw [(Synchronizer.run_of_refused port hauthorize hopen).2]
    rw [hopen] at hheld
    exact h.release _ _ hheld
  · rw [(Synchronizer.run_of_opened port hauthorize hopen).2]
    rw [hopen] at hheld
    exact h.release _ _ (h.close _ _ (h.session.runSession port hheld))

end SystemPreferences.Brackets

/-! ## Calls -/

section Calls

variable {β : Type}

/-- A list of calls that begins with a request for a credential, and no other call is about a
credential. -/
def Underway (request : β) (ofCredential : β → Bool) (calls : List β) : Prop :=
  ∃ between, calls = request :: between ∧ ∀ call ∈ between, ofCredential call = false

/-- A list of calls that begins with a request for a credential.  Either the request was denied and
is all there is, or the credential is given back at the very end; no other call in between is about
a credential. -/
inductive Enclosed (request giveBack : β) (ofCredential : β → Bool) (denied : Prop) :
    List β → Prop where
  | refused (h : denied) : Enclosed request giveBack ofCredential denied [request]
  | returned {between : List β} (h : ∀ call ∈ between, ofCredential call = false) :
      Enclosed request giveBack ofCredential denied (request :: (between ++ [giveBack]))

variable {request giveBack : β} {ofCredential : β → Bool} {calls : List β}

theorem underway_singleton : Underway request ofCredential [request] :=
  ⟨[], rfl, by simp⟩

/-- A call about no credential leaves the credential where it is. -/
theorem Underway.append (h : Underway request ofCredential calls) {c : β}
    (hc : ofCredential c = false) : Underway request ofCredential (calls ++ [c]) := by
  obtain ⟨between, rfl, hbetween⟩ := h
  refine ⟨between ++ [c], rfl, fun call hcall => ?_⟩
  rcases List.mem_append.1 hcall with hcall | hcall
  · exact hbetween call hcall
  · rw [List.mem_singleton.1 hcall, hc]

/-- The return of the credential closes what its request began. -/
theorem Underway.enclosed (h : Underway request ofCredential calls) {denied : Prop} :
    Enclosed request giveBack ofCredential denied (calls ++ [giveBack]) := by
  obtain ⟨between, rfl, hbetween⟩ := h
  exact .returned hbetween

end Calls

/-- The call asks for a credential or gives one back. -/
def BackendCall.ofCredential : BackendCall → Bool
  | authorize _ => true
  | release => true
  | _ => false

namespace Recorded

variable {σ : Type}

/-- The recorded calls begin with a request for a credential, which is held since then. -/
def Holding (r : Recorded σ) : Prop :=
  Underway (.authorize .sync) BackendCall.ofCredential r.calls

/-- The recorded calls are those from the request for a credential to its return. -/
def Finished (denied : Prop) (r : Recorded σ) : Prop :=
  Enclosed (.authorize .sync) .release BackendCall.ofCredential denied r.calls

end Recorded

namespace SystemPreferences.Brackets

variable {σ α ς : Type} {p : SystemPreferences σ α ς} {before held denied settled : σ → Prop}

/-- The record of a backend's calls is kept along with its facts. -/
theorem recorded (h : p.Brackets before held denied settled) (P : Prop) :
    p.recorded.Brackets (fun r => before r.state ∧ r.calls = [])
      (fun r => held r.state ∧ r.Holding) (fun r => denied r.state ∧ r.calls = [.authorize .sync])
      (fun r => settled r.state ∧ r.Finished P) where
  denied := by
    rintro ⟨st, _⟩ r status ⟨hst, rfl⟩ hauthorize
    rw [recorded_authorize] at hauthorize
    obtain ⟨hanswer, rfl⟩ := Prod.mk.inj hauthorize
    exact ⟨h.denied hst (Prod.ext hanswer rfl), rfl⟩
  granted := by
    rintro ⟨st, _⟩ r credential ⟨hst, rfl⟩ hauthorize
    rw [recorded_authorize] at hauthorize
    obtain ⟨hanswer, rfl⟩ := Prod.mk.inj hauthorize
    exact ⟨h.granted hst (Prod.ext hanswer rfl), underway_singleton⟩
  openSession name credential r hr := ⟨h.openSession name credential _ hr.1, hr.2.append rfl⟩
  session :=
    { value := fun key x hx => ⟨h.session.value key (x.1, x.2.state) hx.1, hx.2.append rfl⟩
      setPath := fun path dict x hx =>
        ⟨h.session.setPath path dict (x.1, x.2.state) hx.1, hx.2.append rfl⟩
      commit := fun x hx => ⟨h.session.commit (x.1, x.2.state) hx.1, hx.2.append rfl⟩
      apply := fun x hx => ⟨h.session.apply (x.1, x.2.state) hx.1, hx.2.append rfl⟩
      synchronize := fun x hx =>
        ⟨h.session.synchronize (x.1, x.2.state) hx.1, hx.2.append rfl⟩ }
  close session r hr := ⟨h.close session _ hr.1, hr.2.append rfl⟩
  release credential r hr := ⟨h.release credential _ hr.1, hr.2.enclosed⟩

/-- A run gives back the credential that it was granted, as its last call, and asks for no other. -/
theorem run_recorded (h : p.Brackets before held denied settled) (port : UInt16) {st : σ}
    (hst : before st) :
    let r := Synchronizer.run p.recorded port ⟨st, []⟩
    (denied r.state.state ∨ settled r.state.state) ∧
      r.state.Finished (∃ status, r.result = .error (.authorization status)) := by
  have hbegin : before (Recorded.mk st []).state ∧ (Recorded.mk st []).calls = [] := ⟨hst, rfl⟩
  rcases (h.recorded _).run port hbegin with ⟨hresult, hdenied, hcalls⟩ | ⟨hsettled, hfinished⟩
  · refine ⟨.inl hdenied, ?_⟩
    rw [Recorded.Finished, hcalls]
    exact .refused hresult
  · exact ⟨.inr hsettled, hfinished⟩

end SystemPreferences.Brackets
end ProxyControl
