import BulkImport.Store.World

/-!
# Triples over service code

`Triple P x Q E`: run from a world where `P` holds, `x` ends in a world where `Q a` holds when it
returns `a`, and `E e` when it fails with `e`. The rules follow the combinators of `Op`, so that
a proof about a service follows its code; a statement is reached through `call`, whose rule asks
what the statement does to the tables and what its event looks like.

`Keeps J V x` is the special case the invariants of this development need: the tables satisfy
`J`, and every event logged since some point satisfies `V`, before and after `x`, whether it
returns or fails. `JobsBy R x` says what `x` can do to the jobs table, one `R` step a call, so
that it keeps, in the table and in every snapshot it logs, each property of the table that `R`
steps keep.
-/

namespace BulkImport

/-- A mapped result is a success exactly when the original one is. -/
theorem except_map_eq_ok {ε α β : Type} {f : α → β} {x : Except ε α} {b : β} :
    x.map f = .ok b ↔ ∃ a, x = .ok a ∧ f a = b := by
  cases x <;> simp [Except.map]

/-- What holds after a run: `Q a` of the world after a return of `a`, `E e` after a failure. -/
def Post {α : Type} (Q : α → World → Prop) (E : String → World → Prop) :
    Except String α × World → Prop
  | (.ok a, w) => Q a w
  | (.error e, w) => E e w

/-- `x` run from a world where `P` holds ends where `Post Q E` holds. -/
def Triple {α : Type} (P : World → Prop) (x : Op α) (Q : α → World → Prop)
    (E : String → World → Prop) : Prop :=
  ∀ w, P w → Post Q E (x w)

namespace Triple

variable {α β : Type} {P P' : World → Prop} {Q Q' : α → World → Prop}
  {E E' : String → World → Prop} {x : Op α}

/-- A stronger precondition and weaker postconditions. -/
theorem conseq (h : Triple P x Q E) (hp : ∀ w, P' w → P w) (hq : ∀ a w, Q a w → Q' a w)
    (he : ∀ e w, E e w → E' e w) : Triple P' x Q' E' := by
  intro w hw
  have h1 := h w (hp w hw)
  generalize x w = r at h1 ⊢
  rcases r with ⟨e | a, w'⟩
  · exact he e w' h1
  · exact hq a w' h1

/-- What an invariant-keeping run gives for one world. -/
theorem run_inv {I : World → Prop} (h : Triple P x (fun _ => I) (fun _ => I)) {w : World}
    (hw : P w) : I (x w).2 := by
  have h1 := h w hw
  generalize x w = r at h1
  rcases r with ⟨e | a, w'⟩ <;> exact h1

/-- A run that cannot fail returns, with its postcondition. -/
theorem run_ok (h : Triple P x Q (fun _ _ => False)) {w : World} (hw : P w) :
    ∃ a, (x w).1 = .ok a ∧ Q a (x w).2 := by
  have h1 := h w hw
  generalize x w = r at h1 ⊢
  rcases r with ⟨e | a, w'⟩
  · exact h1.elim
  · exact ⟨a, rfl, h1⟩

/-- A run that returns has its postcondition. -/
theorem post_of_ok (h : Triple P x Q E) {w : World} (hw : P w) {a : α}
    (hok : (x w).1 = .ok a) : Q a (x w).2 := by
  have h1 := h w hw
  generalize x w = r at h1 hok ⊢
  rcases r with ⟨_ | _, _⟩
  · cases hok
  · cases hok
    exact h1

/-- `pure` returns its value in the world it starts in. -/
theorem pure_rule (a : α) : Triple (Q a) (pure a) Q E := fun _ h => h

/-- `Op.fail` fails with its message in the world it starts in. -/
theorem fail_rule (e : String) : Triple (E e) (Op.fail e : Op α) Q E := fun _ h => h

/-- Sequencing: the postcondition of `x` is the precondition of the rest, and a failure of either
ends the run. -/
theorem bind {f : α → Op β} {R : α → World → Prop} {Q : β → World → Prop}
    (hx : Triple P x R E) (hf : ∀ a, Triple (R a) (f a) Q E) : Triple P (x >>= f) Q E := by
  intro w hw
  have h1 := hx w hw
  simp only [Op.bind_apply]
  generalize x w = r at h1 ⊢
  rcases r with ⟨e | a, w'⟩
  · exact h1
  · exact hf a w' h1

/-- A call whose error is dropped: both outcomes of `x` go on as values. -/
theorem attempt {Q : Except String α → World → Prop}
    (h : Triple P x (fun a => Q (.ok a)) (fun e => Q (.error e))) :
    Triple P (Op.attempt x) Q E := by
  intro w hw
  have h1 := h w hw
  simp only [Op.attempt_apply]
  generalize x w = r at h1 ⊢
  rcases r with ⟨e | a, w'⟩ <;> exact h1

/-- `attempt` of a run that keeps an invariant, returning or failing. -/
theorem attempt_inv {I : World → Prop} (h : Triple P x (fun _ => I) (fun _ => I)) :
    Triple P (Op.attempt x) (fun _ => I) E :=
  attempt h

/-- `Op.wrap` prefixes the message of a failure. -/
theorem wrap (msg : String) (h : Triple P x Q (fun e => E (msg ++ e))) :
    Triple P (Op.wrap msg x) Q E := by
  intro w hw
  have h1 := h w hw
  simp only [Op.wrap]
  generalize x w = r at h1 ⊢
  rcases r with ⟨e | a, w'⟩ <;> exact h1

/-- A branch, each side under its condition. -/
theorem ite_rule {c : Prop} [Decidable c] {y : Op α} (hc : c → Triple P x Q E)
    (hn : ¬c → Triple P y Q E) : Triple P (if c then x else y) Q E := by
  by_cases h : c
  · simpa only [if_pos h] using hc h
  · simpa only [if_neg h] using hn h

/-- `now` returns the clock's reading. -/
theorem now_rule {Q : Time → World → Prop} : Triple (fun w => Q w.clock w) now Q E :=
  fun _ h => h

/-- `newUuid` returns the next fresh id and counts it as minted. -/
theorem newUuid_rule {Q : Uuid → World → Prop} :
    Triple (fun w => Q (w.fresh w.minted) { w with minted := w.minted + 1 }) newUuid Q E :=
  fun _ h => h

/-- A call: the world after a success has the statement's tables and a logged success; after a
failure, injected or the statement's own, the same tables and a logged failure. -/
theorem call_rule {stmt : Stmt} {rows : List Nat} {f : Db → Except String (α × Db)}
    (hok : ∀ w a db, P w → w.fault w.calls = none → f w.db = .ok (a, db) →
      Q a { w with calls := w.calls + 1, db := db, log := w.log ++ [⟨stmt, rows, true, db.jobs⟩] })
    (herr : ∀ w e, P w → (w.fault w.calls = some e ∨ w.fault w.calls = none ∧ f w.db = .error e) →
      E e { w with calls := w.calls + 1, log := w.log ++ [⟨stmt, rows, false, w.db.jobs⟩] }) :
    Triple P (call stmt rows f) Q E := by
  intro w hw
  simp only [call]
  rcases hfw : w.fault w.calls with _ | e
  · rcases hf : f w.db with e | ⟨a, db⟩
    · exact herr w e hw (.inr ⟨hfw, hf⟩)
    · exact hok w a db hw hfw hf
  · exact herr w e hw (.inl hfw)

/-- Two postconditions of one run, the second from no precondition. -/
theorem and {Q₂ : α → World → Prop} {E₂ : String → World → Prop} (h₁ : Triple P x Q E)
    (h₂ : Triple (fun _ => True) x Q₂ E₂) :
    Triple P x (fun a w => Q a w ∧ Q₂ a w) (fun e w => E e w ∧ E₂ e w) := by
  intro w hw
  have a₁ := h₁ w hw
  have a₂ := h₂ w trivial
  generalize x w = r at a₁ a₂ ⊢
  rcases r with ⟨e | a, w'⟩ <;> exact ⟨a₁, a₂⟩

/-- A precondition with a pure part, taken out as a hypothesis. -/
theorem of_hyp {c : Prop} (h : c → Triple P x Q E) : Triple (fun w => P w ∧ c) x Q E :=
  fun w hw => h hw.2 w hw.1

/-- Every run ends somewhere. -/
theorem any (x : Op α) : Triple (fun _ => True) x (fun _ _ => True) (fun _ _ => True) := fun w _ => by
  rcases x w with ⟨_ | _, _⟩ <;> trivial

end Triple

/-! ## Invariants of the tables and of the log -/

/-- The log is `base` followed by events that satisfy `V`. -/
def Logged (V : Event → Prop) (base log : List Event) : Prop :=
  ∃ evs, log = base ++ evs ∧ ∀ ev ∈ evs, V ev

/-- The tables satisfy `J`, and every event logged after `base` satisfies `V`. -/
def Holds (J : Db → Prop) (V : Event → Prop) (base : List Event) (w : World) : Prop :=
  J w.db ∧ Logged V base w.log

/-- `x` keeps `Holds J V base` for every `base`, whether it returns or fails. -/
def Keeps {α : Type} (J : Db → Prop) (V : Event → Prop) (x : Op α) : Prop :=
  ∀ base, Triple (Holds J V base) x (fun _ => Holds J V base) (fun _ => Holds J V base)

/-- An event of `V` appended to the log. -/
theorem Logged.snoc {V : Event → Prop} {base log : List Event} (h : Logged V base log)
    {ev : Event} (hv : V ev) : Logged V base (log ++ [ev]) := by
  obtain ⟨evs, hlog, hevs⟩ := h
  refine ⟨evs ++ [ev], by simp [hlog], fun e he => ?_⟩
  rcases List.mem_append.mp he with he | he
  · exact hevs e he
  · rwa [List.mem_singleton.mp he]

/-- Events of `V` logged after events of `V`. -/
theorem Logged.trans {V : Event → Prop} {base log log' : List Event} (h : Logged V base log)
    (h' : Logged V log log') : Logged V base log' := by
  obtain ⟨evs, rfl, hevs⟩ := h
  obtain ⟨evs', rfl, hevs'⟩ := h'
  exact ⟨evs ++ evs', by simp, fun ev he => (List.mem_append.mp he).elim (hevs ev) (hevs' ev)⟩

/-- A log of `V` events is a log of events of any weaker property. -/
theorem Logged.mono {V V' : Event → Prop} {base log : List Event} (h : Logged V base log)
    (hV : ∀ ev, V ev → V' ev) : Logged V' base log :=
  let ⟨evs, he, hevs⟩ := h; ⟨evs, he, fun ev hm => hV ev (hevs ev hm)⟩

namespace Keeps

variable {α β : Type} {J : Db → Prop} {V : Event → Prop} {x : Op α}

/-- A run that keeps `J` and logs only `V` events keeps `J` under any weaker event property,
whatever was logged before it. -/
theorem holds {V' : Event → Prop} (h : Keeps J V x) (hV : ∀ ev, V ev → V' ev) (base : List Event) :
    Triple (Holds J V' base) x (fun _ => Holds J V' base) (fun _ => Holds J V' base) := by
  intro w ⟨hj, hl⟩
  have h1 := h w.log w ⟨hj, [], by simp, by simp⟩
  generalize x w = r at h1 ⊢
  rcases r with ⟨e | a, w'⟩ <;>
    exact ⟨h1.1, hl.trans (h1.2.mono hV)⟩

/-- `pure` keeps every invariant. -/
theorem pure_rule (a : α) : Keeps J V (pure a) := fun _ _ h => h

/-- `Op.fail` keeps every invariant. -/
theorem fail_rule (e : String) : Keeps J V (Op.fail e : Op α) := fun _ _ h => h

/-- A sequence of runs that keep an invariant keeps it. -/
theorem bind {f : α → Op β} (hx : Keeps J V x) (hf : ∀ a, Keeps J V (f a)) :
    Keeps J V (x >>= f) := fun base => (hx base).bind fun a => hf a base

/-- `attempt` keeps the invariant of the run it attempts. -/
theorem attempt (h : Keeps J V x) : Keeps J V (Op.attempt x) := fun base =>
  Triple.attempt (Q := fun _ => Holds J V base) (h base)

/-- `Op.wrap` keeps the invariant of the run it wraps. -/
theorem wrap (msg : String) (h : Keeps J V x) : Keeps J V (Op.wrap msg x) := fun base =>
  Triple.wrap msg (h base)

/-- A branch whose two sides keep an invariant keeps it. -/
theorem ite_rule {c : Prop} [Decidable c] {y : Op α} (hx : Keeps J V x) (hy : Keeps J V y) :
    Keeps J V (if c then x else y) := fun base =>
  Triple.ite_rule (fun _ => hx base) (fun _ => hy base)

/-- `now` keeps every invariant. -/
theorem now_rule : Keeps J V now := fun _ _ h => h

/-- `newUuid` keeps every invariant. -/
theorem newUuid_rule : Keeps J V newUuid := fun _ _ h => h

/-- A call keeps the invariant when the statement keeps `J` and its event satisfies `V` over
tables where `J` holds. -/
theorem call_rule {stmt : Stmt} {rows : List Nat} {f : Db → Except String (α × Db)}
    (hf : ∀ db a db', J db → f db = .ok (a, db') → J db')
    (hv : ∀ db b, J db → V ⟨stmt, rows, b, db.jobs⟩) : Keeps J V (call stmt rows f) :=
  fun _ => Triple.call_rule
    (fun _ _ _ hw _ h => ⟨hf _ _ _ hw.1 h, Logged.snoc hw.2 (hv _ _ (hf _ _ _ hw.1 h))⟩)
    (fun _ _ hw _ => ⟨hw.1, Logged.snoc hw.2 (hv _ _ hw.1)⟩)

end Keeps

/-! ## Runs with a result, and runs that call nothing -/

/-- `x` keeps `Holds J V base` for every `base`, and what it returns satisfies `Q`. -/
def KeepsWith {α : Type} (J : Db → Prop) (V : Event → Prop) (x : Op α) (Q : α → Prop) : Prop :=
  ∀ base, Triple (Holds J V base) x (fun a w => Holds J V base w ∧ Q a) (fun _ => Holds J V base)

/-- `x` returns, and leaves the tables and the log as they were: it sends no statement. -/
def Quiet {α : Type} (x : Op α) : Prop :=
  ∀ w, ∃ a, (x w).1 = .ok a ∧ (x w).2.db = w.db ∧ (x w).2.log = w.log

section Results

variable {α β : Type} {J : Db → Prop} {V : Event → Prop} {x : Op α} {Q R : α → Prop}

/-- `pure` of a value that satisfies `Q`. -/
theorem KeepsWith.pure_rule {a : α} (h : Q a) : KeepsWith J V (pure a) Q := fun _ _ hw => ⟨hw, h⟩

/-- A sequence whose rest keeps the invariant from every value the first run returns. -/
theorem KeepsWith.bind {f : α → Op β} {Q : β → Prop} (hx : KeepsWith J V x R)
    (hf : ∀ a, R a → KeepsWith J V (f a) Q) : KeepsWith J V (x >>= f) Q :=
  fun base => (hx base).bind fun a _ hw => hf a hw.2 base _ hw.1

/-- A branch, each side under its condition. -/
theorem KeepsWith.ite_rule {c : Prop} [Decidable c] {y : Op α} (hx : c → KeepsWith J V x Q)
    (hy : ¬c → KeepsWith J V y Q) : KeepsWith J V (if c then x else y) Q := fun base =>
  Triple.ite_rule (fun h => hx h base) (fun h => hy h base)

/-- A run with a result, followed by runs that keep the invariant from the values it returns. -/
theorem Keeps.bind_with {f : α → Op β} (hx : KeepsWith J V x R) (hf : ∀ a, R a → Keeps J V (f a)) :
    Keeps J V (x >>= f) :=
  fun base => (hx base).bind fun a _ hw => hf a hw.2 base _ hw.1

/-- `pure` sends no statement. -/
theorem Quiet.pure_rule (a : α) : Quiet (pure a) := fun _ => ⟨a, rfl, rfl, rfl⟩

/-- A sequence of quiet runs is quiet. -/
theorem Quiet.bind {f : α → Op β} (hx : Quiet x) (hf : ∀ a, Quiet (f a)) : Quiet (x >>= f) := by
  intro w
  obtain ⟨a, h₁, h₂, h₃⟩ := hx w
  obtain ⟨b, g₁, g₂, g₃⟩ := hf a (x w).2
  simp only [Op.bind_apply, h₁]
  exact ⟨b, g₁, g₂.trans h₂, g₃.trans h₃⟩

/-- A branch whose two sides are quiet is quiet. -/
theorem Quiet.ite_rule {c : Prop} [Decidable c] {y : Op α} (hx : Quiet x) (hy : Quiet y) :
    Quiet (if c then x else y) := by
  by_cases h : c
  · simpa only [if_pos h] using hx
  · simpa only [if_neg h] using hy

/-- `now` sends no statement. -/
theorem Quiet.now_rule : Quiet now := fun w => ⟨w.clock, rfl, rfl, rfl⟩

/-- `newUuid` sends no statement. -/
theorem Quiet.newUuid_rule : Quiet newUuid := fun w => ⟨w.fresh w.minted, rfl, rfl, rfl⟩

/-- A quiet run keeps every invariant. -/
theorem Quiet.keeps (h : Quiet x) : Keeps J V x := by
  intro base w hw
  obtain ⟨a, h₁, h₂, h₃⟩ := h w
  generalize x w = r at h₁ h₂ h₃ ⊢
  rcases r with ⟨_ | _, w'⟩
  · cases h₁
  · exact ⟨h₂ ▸ hw.1, h₃ ▸ hw.2⟩

/-- A quiet run with a postcondition on its value. -/
theorem KeepsWith.of_quiet (h : Quiet x)
    (hq : Triple (fun _ => True) x (fun a _ => Q a) (fun _ _ => True)) : KeepsWith J V x Q :=
  fun base => (Triple.and (h.keeps base) hq).conseq (fun _ h => h) (fun _ _ h => h) (fun _ _ h => h.1)

end Results

/-! ## What a run does to the jobs table -/

/-- Every call of `x` leaves the jobs table as it was or changes it by an `R` step. -/
def JobsBy {α : Type} (R : List Job → List Job → Prop) (x : Op α) : Prop :=
  ∀ Jj : List Job → Prop, (∀ js js', Jj js → R js js' → Jj js') →
    Keeps (fun db => Jj db.jobs) (fun ev => Jj ev.jobs) x

/-- `UPDATE jobs SET ... WHERE id = k`, with one of the `SET`s of `S`. -/
def RowEdit (k : Uuid) (S : (Job → Job) → Prop) (js js' : List Job) : Prop :=
  ∃ g, S g ∧ js' = js.map fun j => if j.id == k then g j else j

namespace JobsBy

variable {α β : Type} {R R' : List Job → List Job → Prop} {x : Op α}

/-- A run that moves the jobs table by `R` steps moves it by steps of any larger relation. -/
theorem mono (h : JobsBy R x) (hR : ∀ js js', R js js' → R' js js') : JobsBy R' x :=
  fun Jj hJ => h Jj fun js js' h1 h2 => hJ js js' h1 (hR _ _ h2)

/-- `pure` leaves the jobs table alone. -/
theorem pure_rule (a : α) : JobsBy R (pure a) := fun _ _ => Keeps.pure_rule a

/-- `Op.fail` leaves the jobs table alone. -/
theorem fail_rule (e : String) : JobsBy R (Op.fail e : Op α) := fun _ _ => Keeps.fail_rule e

/-- A sequence of runs that move the jobs table by `R` steps. -/
theorem bind {f : α → Op β} (hx : JobsBy R x) (hf : ∀ a, JobsBy R (f a)) :
    JobsBy R (x >>= f) := fun Jj hJ => (hx Jj hJ).bind fun a => hf a Jj hJ

/-- `attempt` moves the jobs table as the run it attempts. -/
theorem attempt (h : JobsBy R x) : JobsBy R (Op.attempt x) := fun Jj hJ => (h Jj hJ).attempt

/-- `Op.wrap` moves the jobs table as the run it wraps. -/
theorem wrap (msg : String) (h : JobsBy R x) : JobsBy R (Op.wrap msg x) := fun Jj hJ =>
  (h Jj hJ).wrap msg

/-- A branch whose two sides move the jobs table by `R` steps. -/
theorem ite_rule {c : Prop} [Decidable c] {y : Op α} (hx : JobsBy R x) (hy : JobsBy R y) :
    JobsBy R (if c then x else y) := fun Jj hJ => Keeps.ite_rule (hx Jj hJ) (hy Jj hJ)

/-- `now` leaves the jobs table alone. -/
theorem now_rule : JobsBy R now := fun _ _ => Keeps.now_rule

/-- `newUuid` leaves the jobs table alone. -/
theorem newUuid_rule : JobsBy R newUuid := fun _ _ => Keeps.newUuid_rule

/-- A call whose statement leaves the jobs table alone or changes it by an `R` step. -/
theorem call_rule {stmt : Stmt} {rows : List Nat} {f : Db → Except String (α × Db)}
    (hf : ∀ db a db', f db = .ok (a, db') → db'.jobs = db.jobs ∨ R db.jobs db'.jobs) :
    JobsBy R (call stmt rows f) := fun _ hJ =>
  Keeps.call_rule (fun db a db' hj h => (hf db a db' h).elim (fun he => he ▸ hj) (hJ _ _ hj))
    fun _ _ hj => hj

/-- A property of the jobs table that `R` steps keep holds after `x`, and of every snapshot `x`
logs, under any weaker property of snapshots. -/
theorem holds (Jj Vj : List Job → Prop) (h : JobsBy R x) (hJ : ∀ js js', Jj js → R js js' → Jj js')
    (hV : ∀ js, Jj js → Vj js) (base : List Event) :
    Triple (Holds (fun db => Jj db.jobs) (fun ev => Vj ev.jobs) base) x
      (fun _ => Holds (fun db => Jj db.jobs) (fun ev => Vj ev.jobs) base)
      (fun _ => Holds (fun db => Jj db.jobs) (fun ev => Vj ev.jobs) base) :=
  (h Jj hJ).holds (fun ev => hV ev.jobs) base

/-- A property of the jobs table that `R` steps keep holds after `x`. -/
theorem run (Jj : List Job → Prop) (h : JobsBy R x) (hJ : ∀ js js', Jj js → R js js' → Jj js')
    {w : World} (hw : Jj w.db.jobs) : Jj (x w).2.db.jobs :=
  ((h Jj hJ w.log).run_inv ⟨hw, [], by simp, by simp⟩).1

/-- A call whose statement leaves the jobs table alone. -/
theorem call_of_jobs {stmt : Stmt} {rows : List Nat} {f : Db → Except String (α × Db)}
    (hf : ∀ db a db', f db = .ok (a, db') → db'.jobs = db.jobs) :
    JobsBy R (call stmt rows f) := call_rule fun db a db' h => .inl (hf db a db' h)

end JobsBy

/-- A quiet run leaves the jobs table alone. -/
theorem Quiet.jobsBy {α : Type} {R : List Job → List Job → Prop} {x : Op α} (h : Quiet x) :
    JobsBy R x := fun _ _ => h.keeps

end BulkImport
