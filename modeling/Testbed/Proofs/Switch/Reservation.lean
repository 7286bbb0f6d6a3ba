import Testbed.Proofs.Switch.Step

namespace Testbed

namespace PortRegistry

/-- What belongs to the switch, and nothing else of it, is the same in both registries. -/
def Spares (name : String) (r r' : PortRegistry) : Prop :=
  ∀ port, r'.holder? port = some name ↔ r.holder? port = some name

variable {r q : PortRegistry} {switch name : String} {e : Endpoint}

theorem Spares.refl (name : String) (r : PortRegistry) : Spares name r r := fun _ => Iff.rfl

theorem holder?_of_reserve (h : r.reserve switch e = .ok q) :
    r.holder? e.port = none ∨ r.holder? e.port = some switch := by
  unfold reserve at h
  split at h
  next free => exact Or.inl free
  next holder taken =>
    split at h
    next same => exact Or.inr (by rw [taken, same])
    next => cases h

theorem spares_reserve (h : r.reserve switch e = .ok q) (other : name ≠ switch) :
    Spares name r q := by
  intro port
  rw [holder?_reserve h]
  by_cases here : port = e.port
  · rw [if_pos here, here]
    rcases holder?_of_reserve h with free | own
    · simp [free, other.symm]
    · simp [own]
  · rw [if_neg here]

theorem spares_release (r : PortRegistry) (e : Endpoint) (other : name ≠ switch) :
    Spares name r (r.release switch e) := by
  intro port
  rw [holder?_release]
  by_cases mine : port = e.port ∧ r.holder? e.port = some switch
  · rw [if_pos mine, mine.1, mine.2]
    simp [other.symm]
  · rw [if_neg mine]

theorem spares_endStop (b : Binding) (r : PortRegistry) (other : name ≠ b.switch) :
    Spares name r (b.endStop r).2 := by
  unfold Binding.endStop
  dsimp only
  split
  next => exact spares_release r _ other
  next => exact Spares.refl name r

end PortRegistry

namespace Seat

open PortRegistry (Spares)

/-- The data plane has the port, or a bind on it waits for the check of the host. -/
def Claims (t : Seat Binding) (port : UInt16) : Prop :=
  (∃ e, t.switch.dataPlane? = some e ∧ e.port = port) ∨
    ∃ e, t.asked = some (.checkEndpoint e) ∧ e.port = port

/-- The last bind on the port that had reserved it was given up. -/
def Abandoned (past : List Moment) (port : UInt16) : Prop :=
  ∃ before m after, past = before ++ m :: after ∧
    (∃ e, m.turn = .givesUp (.checkEndpoint e) ∧ e.port = port) ∧
    ∀ later ∈ after, ∀ e, later.turn = .asks (.checkEndpoint e) → e.port ≠ port

theorem Step.spares {t t' : Seat Binding} {r r' : PortRegistry} {event : SwitchEvent} {turn : Turn}
    {name : String} (step : Step t r event turn t' r') (other : name ≠ t.switch.switch) :
    Spares name r r' := by
  cases step with
  | reserved _ granted => exact PortRegistry.spares_reserve granted other
  | occupied => exact PortRegistry.spares_release r _ other
  | stopped | shutDown => exact PortRegistry.spares_endStop _ r other
  | _ => exact Spares.refl name r

section Snoc

variable {past : List Moment} {m : Moment}

theorem abandoned_nil (port : UInt16) : ¬ Abandoned [] port := by
  rintro ⟨before, m, after, parted, _⟩
  simp at parted

theorem abandoned_snoc {port : UInt16} :
    Abandoned (past ++ [m]) port ↔
      (∃ e, m.turn = .givesUp (.checkEndpoint e) ∧ e.port = port) ∨
        Abandoned past port ∧ ∀ e, m.turn = .asks (.checkEndpoint e) → e.port ≠ port := by
  constructor
  · rintro ⟨before, x, after, parted, left, last⟩
    rcases snoc_eq_append_cons.mp parted with ⟨rfl, rfl, rfl⟩ | ⟨middle, rfl, rfl⟩
    · exact Or.inl left
    · refine Or.inr ⟨⟨before, x, middle, rfl, left, fun later member => ?_⟩, ?_⟩
      · exact last later (List.mem_append_left _ member)
      · exact last m (by simp)
  · rintro (left | ⟨⟨before, x, after, rfl, left, last⟩, quiet⟩)
    · exact ⟨past, m, [], rfl, left, fun _ member => absurd member List.not_mem_nil⟩
    · refine ⟨before, x, after ++ [m], by simp, left, fun later member => ?_⟩
      rcases List.mem_append.mp member with member | member
      · exact last later member
      · rw [List.mem_singleton.mp member]
        exact quiet

end Snoc

section Claims

variable {b : Binding} {asked : Option Request} {port : UInt16}

theorem claims_idle :
    (idle b).Claims port ↔ ∃ e, b.dataPlane? = some e ∧ e.port = port := by
  simp [Claims, idle]

theorem claims_checking {e : Endpoint} (unbound : b.phase = .unbound) :
    (Seat.mk b (some (.checkEndpoint e))).Claims port ↔ e.port = port := by
  simp [Claims, Binding.dataPlane?, unbound]

theorem claims_of_dataPlane {b' : Binding} {asked' : Option Request}
    (same : b'.dataPlane? = b.dataPlane?) (unchecked : ∀ e, asked ≠ some (.checkEndpoint e))
    (unchecked' : ∀ e, asked' ≠ some (.checkEndpoint e)) :
    (Seat.mk b' asked').Claims port ↔ (Seat.mk b asked).Claims port := by
  simp [Claims, same, unchecked, unchecked']

end Claims

/-- The switch holds in the registry what it claims and what a bind that was given up has left. -/
structure Accounted (past : List Moment) (t : Seat Binding) (r : PortRegistry) : Prop where
  holds : ∀ port, r.holder? port = some t.switch.switch ↔ t.Claims port ∨ Abandoned past port
  apart : ∀ port, t.Claims port → ¬ Abandoned past port

namespace Accounted

variable {past : List Moment} {m : Moment} {t t' : Seat Binding} {r r' : PortRegistry} {b : Binding}

theorem quiet (accounted : Accounted past t r) (name : t'.switch.switch = t.switch.switch)
    (claims : ∀ port, t'.Claims port ↔ t.Claims port)
    (reserves : ∀ e, m.turn ≠ .asks (.checkEndpoint e))
    (leaves : ∀ e, m.turn ≠ .givesUp (.checkEndpoint e)) : Accounted (past ++ [m]) t' r := by
  have abandoned (port : UInt16) : Abandoned (past ++ [m]) port ↔ Abandoned past port := by
    rw [abandoned_snoc]
    simp [reserves, leaves]
  refine ⟨fun port => ?_, fun port => ?_⟩
  · rw [name, claims, abandoned]
    exact accounted.holds port
  · rw [claims, abandoned]
    exact accounted.apart port

theorem reserved {e : Endpoint} {event : SwitchEvent} (accounted : Accounted past (idle b) r)
    (unbound : b.phase = .unbound) (granted : r.reserve b.switch e = .ok r') :
    Accounted (past ++ [⟨event, .asks (.checkEndpoint e)⟩]) ⟨b, some (.checkEndpoint e)⟩ r' := by
  have unclaimed (port : UInt16) : ¬ (idle b).Claims port := by
    simp [claims_idle, Binding.dataPlane?, unbound]
  refine ⟨fun port => ?_, fun port => ?_⟩
  · have held := accounted.holds port
    rw [PortRegistry.holder?_reserve granted, claims_checking unbound, abandoned_snoc]
    by_cases here : port = e.port
    · simp [here]
    · simp only [or_iff_right (unclaimed port)] at held
      simpa [here, Ne.symm here] using held
  · rw [claims_checking unbound, abandoned_snoc]
    rintro rfl
    simp

theorem occupied {e : Endpoint} {event : SwitchEvent} {result : Except Error Unit}
    (accounted : Accounted past ⟨b, some (.checkEndpoint e)⟩ r) (unbound : b.phase = .unbound) :
    Accounted (past ++ [⟨event, .returns result⟩]) (idle (b.inPhase (.failed none)))
      (r.release b.switch e) := by
  have mine : r.holder? e.port = some b.switch :=
    (accounted.holds e.port).mpr (Or.inl ((claims_checking unbound).mpr rfl))
  -- Released under the name of the switch, the port would also be lost to a bind given up before
  -- it: `apart` says that there is none.
  have left : ¬ Abandoned past e.port := accounted.apart e.port ((claims_checking unbound).mpr rfl)
  have unclaimed (port : UInt16) : ¬ (idle (b.inPhase (.failed none))).Claims port := by
    simp [claims_idle, Binding.dataPlane?]
  refine ⟨fun port => ?_, fun port claims => absurd claims (unclaimed port)⟩
  have held := accounted.holds port
  rw [claims_checking unbound] at held
  rw [PortRegistry.holder?_release, or_iff_right (unclaimed port), abandoned_snoc]
  by_cases here : port = e.port
  · simp [here, mine, left]
  · simpa [here, Ne.symm here] using held

theorem ended {asked : Option Request} {event : SwitchEvent} {result : Except Error Unit}
    (accounted : Accounted past ⟨b, asked⟩ r) (unchecked : ∀ e, asked ≠ some (.checkEndpoint e)) :
    Accounted (past ++ [⟨event, .returns result⟩]) (idle (b.endStop r).1) (b.endStop r).2 := by
  have unclaimed (port : UInt16) : ¬ (idle (b.endStop r).1).Claims port := by
    simp [claims_idle, Binding.endStop, Binding.dataPlane?]
  have claims (port : UInt16) : (Seat.mk b asked).Claims port ↔
      ∃ e, b.dataPlane? = some e ∧ e.port = port := by
    simp [Claims, unchecked]
  refine ⟨fun port => ?_, fun port claimed => absurd claimed (unclaimed port)⟩
  have held := accounted.holds port
  rw [claims] at held
  rw [or_iff_right (unclaimed port), abandoned_snoc]
  cases plane : b.dataPlane? with
  | none => simpa [Binding.endStop, plane] using held
  | some e =>
    have claimed : (Seat.mk b asked).Claims e.port := (claims e.port).mpr ⟨e, plane, rfl⟩
    have mine : r.holder? e.port = some b.switch := (accounted.holds e.port).mpr (Or.inl claimed)
    have left : ¬ Abandoned past e.port := accounted.apart e.port claimed
    simp only [Binding.endStop, plane, PortRegistry.holder?_release]
    by_cases here : port = e.port
    · simp [here, mine, left]
    · simpa [here, Ne.symm here, plane] using held

theorem givenUp {request : Request} (accounted : Accounted past ⟨b, some request⟩ r)
    (fits : (Seat.mk b (some request)).Fits) :
    Accounted (past ++ [⟨.giveUp, .givesUp request⟩]) (idle b) r := by
  by_cases checking : ∃ e, request = .checkEndpoint e
  · obtain ⟨e, rfl⟩ := checking
    have unbound := fits.checking
    have unclaimed (port : UInt16) : ¬ (idle b).Claims port := by
      simp [claims_idle, Binding.dataPlane?, unbound]
    refine ⟨fun port => ?_, fun port claimed => absurd claimed (unclaimed port)⟩
    have held := accounted.holds port
    rw [claims_checking unbound] at held
    rw [or_iff_right (unclaimed port), abandoned_snoc]
    simpa using held
  · have unchecked (e : Endpoint) : request ≠ .checkEndpoint e := fun same => checking ⟨e, same⟩
    refine accounted.quiet rfl (fun port => claims_of_dataPlane rfl ?_ nofun) nofun ?_
    · simpa using unchecked
    · simpa using unchecked

theorem step {event : SwitchEvent} {turn : Turn} (accounted : Accounted past t r) (fits : t.Fits)
    (step : Step t r event turn t' r') : Accounted (past ++ [⟨event, turn⟩]) t' r' := by
  cases step with
  | misplaced | atRest => exact accounted.quiet rfl (fun _ => Iff.rfl) nofun nofun
  | reserved unbound granted => exact accounted.reserved unbound granted
  | listening unbound =>
    refine accounted.quiet rfl (fun port => ?_) nofun nofun
    rw [claims_checking unbound, claims_idle]
    simp [Binding.dataPlane?]
  | occupied unbound => exact accounted.occupied unbound
  | stopped => exact accounted.ended nofun
  | shutDown => exact accounted.ended nofun
  | givenUp => exact accounted.givenUp fits
  | launched | shuttingDown =>
    exact accounted.quiet rfl (fun _ => claims_of_dataPlane rfl nofun nofun) nofun nofun
  | conflict before | attached before | launching before | unlaunched before | ready before
  | unready before | expired before =>
    refine accounted.quiet rfl (fun _ => claims_of_dataPlane ?_ nofun nofun) nofun nofun
    simp [Binding.dataPlane?, before]

theorem elsewhere (accounted : Accounted past t r) (spares : Spares t.switch.switch r r') :
    Accounted past t r' :=
  ⟨fun port => (spares port).trans (accounted.holds port), accounted.apart⟩

theorem new {switch : String} {deviceId : UInt64} {ports : List (UInt32 × String)}
    {timeout : Duration} (free : ∀ port, r.holder? port ≠ some switch) :
    Accounted [] (idle (.new switch deviceId ports timeout)) r := by
  have unclaimed (port : UInt16) :
      ¬ (idle (Binding.new switch deviceId ports timeout)).Claims port := by
    simp [claims_idle, Binding.new, Binding.dataPlane?]
  refine ⟨fun port => ?_, fun port claimed => absurd claimed (unclaimed port)⟩
  simp only [unclaimed port, abandoned_nil, or_self, iff_false]
  exact free port

end Accounted

theorem Run.accounted {past : List Moment} {t first : Seat Binding} {start r : PortRegistry}
    (fits : first.Fits) (accounted : Accounted [] first start)
    (run : Run Binding.machine (Spares first.switch.switch) first start past t r) :
    t.switch.switch = first.switch.switch ∧ Accounted past t r := by
  refine (Run.induction (P := fun past t r => t.switch.switch = first.switch.switch ∧
    Accounted past t r) fits ⟨rfl, accounted⟩ ?_ ?_ run).2
  · rintro past t r event turn t' r' fits ⟨name, accounted⟩ taken
    exact ⟨taken.switch_eq.trans name, accounted.step fits taken⟩
  · rintro past t r r' ⟨name, accounted⟩ spares
    exact ⟨name, accounted.elsewhere (name ▸ spares)⟩

end Seat

end Testbed
