import GoodixFingerprint.Client.System

/-! Death notices that are still to come.

The client learns of a daemon's death from a notice only, and ignores whether its
`linkToDeath` failed. `watched_iff` says exactly which lookups leave it bound to a dead
daemon with no notice to come: those that find a daemon whose notices have all been
delivered before the client links to it. -/
namespace GoodixFingerprint
open Binder

namespace World
variable (ctx : Context Nat) (i : Interleaving)

/-- A binder that is spent when `getService` links to its death. -/
def Late (k : Nat) (w : World) : Prop := ((w.withService (some k)).pass i.beforeLink).links.Spent k

/-- `getService` does not bind the client to a binder that is spent. -/
def InTime (w : World) : Prop := w.gService = none → ∀ k ∈ i.found, ¬ w.Late i k

/-- An obituary is sent of the dead only. -/
def Sound (w : World) : Prop := ∀ k, w.links.sent k = true → w.lives k = false

/-- A notice will come of the daemon that the client is bound to. -/
def Owed (w : World) : Prop := ∀ k, w.gService = some k → w.links.Due k

/-- Bound to a daemon of whose death no notice will come any more. -/
def Forsaken (k : Nat) (w : World) : Prop := w.gService = some k ∧ w.links.Spent k

/-- Where the client is bound to a dead daemon, a notice of its death is pending. -/
def Watched (w : World) : Prop := ∀ k, w.gService = some k → w.lives k = false → w.links.Due k

/-! ### What becomes of the links -/

section Links
variable {P : DeathLinks Nat → Prop} (hP : ∀ d k, P d → P (d.sendObituary k))
include hP

theorem links_happen (w : World) (x : Incident) (h : P w.links) : P (w.happen x).links := by
  cases x with
  | crash | restart => exact h
  | obituary k =>
    by_cases hk : (w.daemons k).alive = true
    · rw [happen, if_pos hk]
      exact h
    · rw [happen, if_neg hk]
      exact hP _ k h

theorem links_pass (w : World) (xs : List Incident) (h : P w.links) : P (w.pass xs).links :=
  pass_induction (I := fun v => P v.links) (fun v x hv => links_happen hP v x hv) w xs h

theorem links_connected (k : Nat) (w : World) (h : P (w.linked i k).links) : P (w.connected ctx i k).links := by
  have hgreeting : P ((w.linked i k).greeting i).links := links_pass hP _ _ h
  have hintroduced : P (((w.linked i k).greeting i).introduced ctx i k (w.linked i k).callbacks).links :=
    links_pass hP _ _ hgreeting
  unfold connected admitted kept
  split
  · exact hintroduced
  · exact hintroduced

end Links

/-! ### Soundness -/

variable {w : World}

theorem Sound.congr {w' : World} (h : w.Sound) (hlinks : w'.links = w.links) (hdaemons : w'.daemons = w.daemons) :
    w'.Sound := by
  intro k hsent
  rw [hlinks] at hsent
  rw [lives, hdaemons]
  exact h k hsent

theorem Sound.happen (h : w.Sound) (x : Incident) : (w.happen x).Sound := by
  intro k hsent
  rw [lives_happen, Bool.and_eq_false_iff]
  cases x with
  | crash | restart => exact .inl (h k hsent)
  | obituary j =>
    by_cases hj : (w.daemons j).alive = true
    · rw [World.happen, if_pos hj] at hsent
      exact .inl (h k hsent)
    · rw [World.happen, if_neg hj, DeathLinks.sent_sendObituary, Bool.or_eq_true, decide_eq_true_eq] at hsent
      rcases hsent with hsent | rfl
      · exact .inl (h k hsent)
      · exact .inl (Bool.eq_false_of_not_eq_true hj)

theorem Sound.pass (h : w.Sound) (xs : List Incident) : (w.pass xs).Sound :=
  pass_induction (fun _ x hv => hv.happen x) w xs h

theorem Sound.asked (h : w.Sound) (hal : Hal) (k : Nat) (r : Request Nat) : (w.asked ctx hal k r).Sound := by
  intro j hsent
  have hdead := h j hsent
  rw [← Bool.not_eq_true] at hdead ⊢
  exact fun hlives => hdead (lives_of_asked ctx hal j k r w hlives)

theorem Sound.link (h : w.Sound) (k : Nat) : (w.link k).Sound := by
  intro j hsent
  exact h j ((DeathLinks.sent_linkToDeath w.links k j).symm.trans hsent)

theorem Sound.connected (h : w.Sound) (k : Nat) : (w.connected ctx i k).Sound := by
  have hservice : (w.withService (some k)).Sound := h.congr rfl rfl
  have hlinked : (w.linked i k).Sound := (hservice.pass i.beforeLink).link k
  have hcallback : ((w.linked i k).withCallback.withDevice (w.linked i k).gDevice).Sound := hlinked.congr rfl rfl
  have hintroduced : (((w.linked i k).greeting i).introduced ctx i k (w.linked i k).callbacks).Sound :=
    ((hcallback.pass i.beforeInit).asked ctx i.hal k _).pass i.beforeOpenHal
  have hasked := hintroduced.asked ctx i.hal k .openHal
  unfold World.connected admitted kept
  split
  · exact hasked.congr rfl rfl
  · exact hasked

/-! ### Owed and forsaken -/

theorem Owed.congr {w' : World} (h : w.Owed) (hservice : w'.gService = w.gService) (hlinks : w'.links = w.links) :
    w'.Owed := by
  intro k hk
  rw [hlinks]
  exact h k (hservice ▸ hk)

theorem Owed.happen (h : w.Owed) (x : Incident) : (w.happen x).Owed := by
  intro k hk
  rw [client_happen] at hk
  exact links_happen (P := fun d => d.Due k) (fun d j hd => d.due_sendObituary k j hd) w x (h k hk)

theorem Owed.pass (h : w.Owed) (xs : List Incident) : (w.pass xs).Owed :=
  pass_induction (fun _ x hv => hv.happen x) w xs h

theorem owed_unbound (w : World) (h : w.gService = none) : w.Owed := by
  intro k hk
  rw [h] at hk
  cases hk

theorem owed_served (h : w.Owed) (hintime : w.InTime i) : (w.served ctx i).Owed := by
  unfold served
  split
  · next k hunbound hfound =>
    intro j hj
    rw [gService_connected] at hj
    split at hj
    · cases hj
    · obtain rfl : k = j := Option.some.inj hj
      have hlinked : (w.linked i k).links.Due k :=
        (DeathLinks.linkToDeath_due_iff _ k).mpr (hintime hunbound k hfound)
      exact links_connected ctx i (P := fun d => d.Due k) (fun d j hd => d.due_sendObituary k j hd) k w hlinked
  · exact h

/-- The notice that a forsaken client waits for will never come. -/
theorem Forsaken.not_watched {k : Nat} (h : w.Forsaken k) (hsound : w.Sound) : ¬ w.Watched :=
  fun hwatched => h.2.not_due (hwatched k h.1 (hsound k h.2.1))

theorem Forsaken.pass {k : Nat} (h : w.Forsaken k) (xs : List Incident) : (w.pass xs).Forsaken k := by
  refine ⟨?_, ?_⟩
  · rw [client_pass]
    exact h.1
  · exact links_pass (P := fun d => d.Spent k) (fun d j hd => d.spent_sendObituary k j hd) w xs h.2

theorem Forsaken.asked {k : Nat} (h : w.Forsaken k) (hal : Hal) (r : Request Nat) :
    (w.asked ctx hal k r).Forsaken k := h

/-- A client that comes too late takes the silence of the dead for a success. -/
theorem forsaken_served (hsound : w.Sound) {k : Nat} (hunbound : w.gService = none) (hfound : i.found = some k)
    (hlate : w.Late i k) : (w.served ctx i).Forsaken k := by
  have hservice : (w.withService (some k)).Sound := hsound.congr rfl rfl
  have hdead : ((w.withService (some k)).pass i.beforeLink).lives k = false :=
    hservice.pass i.beforeLink k hlate.1
  have hunheard : ¬ w.Heard ctx i k := by
    intro h
    obtain ⟨-, hlives, hcrash⟩ := h
    rw [lives_pass, show (w.withService (some k)).lives k = true from hlives] at hdead
    simp only [List.mem_append, not_or] at hcrash
    simp [hcrash.1] at hdead
  rw [served_found ctx i w k hunbound hfound]
  refine ⟨(connected_unheard ctx i k w hunheard).1, ?_⟩
  have hlinked : (w.linked i k).links.Spent k := DeathLinks.spent_linkToDeath _ k k hlate
  exact links_connected ctx i (P := fun d => d.Spent k) (fun d j hd => d.spent_sendObituary k j hd) k w hlinked

/-- A lookup that does not leave the client forsaken was in time. -/
theorem inTime_of_not_forsaken (hsound : w.Sound) (h : ∀ k, (w.served ctx i).Forsaken k → False) : w.InTime i :=
  fun hunbound k hfound hlate => h k (forsaken_served ctx i hsound hunbound hfound hlate)

theorem gService_closed (dev : Nat) (w : World) : (w.closed ctx i dev).gService = none := by
  unfold closed
  split
  · next hnone => exact hnone
  · rfl

/-- No operation is of any help to a forsaken client. -/
theorem forsaken_operated (r : Request Nat) (w : World) (k : Nat) (h : (w.served ctx i).Forsaken k) :
    (w.operated ctx i r).Forsaken k := by
  rw [operated, h.1]
  dsimp only
  split
  · exact (h.pass i.beforeCall).asked ctx i.hal r
  · exact h.pass i.beforeCall

theorem owed_operated (h : w.Owed) (hintime : w.InTime i) (r : Request Nat) : (w.operated ctx i r).Owed := by
  have hserved := owed_served ctx i h hintime
  unfold operated
  split
  · exact hserved
  · split <;> exact (hserved.pass i.beforeCall).congr rfl rfl

end World

namespace Client
variable (ctx : Context Nat)

/-- No lookup of the step leaves the client with a binder that is spent; what
`fingerprint_close` finds it does not keep. -/
def LinksInTime (w : World) : Event → Prop
  | .fingerprintOpen true i => w.crashed = false → w.allocate.InTime i
  | .operation call i => w.crashed = false → call.request.isOk = true → w.InTime i
  | .binderDied k i => w.crashed = false → ((w.noticed k).withService none).InTime i
  | _ => True

theorem sound_preserved : Preserves ctx (fun _ _ => True) World.Sound where
  happen _ x h := h.happen x
  faulted _ h := h.congr rfl rfl
  allocate _ h := h.congr rfl rfl
  withHeap _ _ _ h := h.congr rfl rfl
  noticed _ _ _ _ h := h
  connected _ i k _ h := h.connected ctx i k
  asked _ hal k r _ _ h := h.asked ctx hal k r
  delivered _ _ _ h := h.congr rfl rfl
  closed _ hal k _ h := (h.asked ctx hal k .closeHal).congr rfl rfl

/-- A step whose lookups are in time leaves the client with a notice to come. -/
theorem owed_next (w : World) (e : Event) (hintime : LinksInTime w e) (h : w.Owed) : (next ctx w e).Owed := by
  cases hw : w.crashed with
  | true => exact next_crashed ctx hw h (fun x => h.happen x) e
  | false =>
    rw [next_eq ctx w hw]
    match e with
    | .incident x => exact h.happen x
    | .fingerprintOpen true i =>
      have hallocate : w.allocate.Owed := h.congr rfl rfl
      exact World.owed_served ctx i hallocate (hintime hw)
    | .fingerprintOpen false _ => exact h
    | .fingerprintClose (some dev) i => exact World.owed_unbound _ (World.gService_closed ctx i dev w)
    | .fingerprintClose none _ => exact h
    | .setNotify dev notify => exact h.congr rfl rfl
    | .operation call i =>
      show (w.performed ctx i call).Owed
      unfold World.performed
      split
      · next r hrequest => exact World.owed_operated ctx i h (hintime hw (by rw [hrequest]; rfl)) r
      · exact h.congr rfl rfl
    | .binderDied k i => exact World.owed_served ctx i (World.owed_unbound _ rfl) (hintime hw)
    | .message n =>
      exact World.handled_preserves h (h.congr rfl rfl) (fun _ _ => h.congr rfl rfl) n

/-- A step that leaves the client watched had its lookup in time. -/
theorem linksInTime_of_watched (w : World) (e : Event) (hsound : w.Sound) (hwatched : (next ctx w e).Watched) :
    LinksInTime w e := by
  have hnext : (next ctx w e).Sound := (sound_preserved ctx).next w e trivial hsound
  have hspared (k : Nat) : ¬ (next ctx w e).Forsaken k := fun h => h.not_watched hnext hwatched
  match e with
  | .incident _ | .fingerprintOpen false _ | .fingerprintClose _ _ | .setNotify _ _ | .message _ => trivial
  | .fingerprintOpen true i =>
    intro hw
    rw [next_eq ctx w hw] at hspared
    exact World.inTime_of_not_forsaken ctx i (hsound.congr rfl rfl) hspared
  | .operation call i =>
    intro hw hok
    apply World.inTime_of_not_forsaken ctx i hsound
    intro k hforsaken
    apply hspared k
    rw [next_eq ctx w hw]
    show (w.performed ctx i call).Forsaken k
    unfold World.performed
    cases hrequest : call.request with
    | error fault =>
      rw [hrequest] at hok
      cases hok
    | ok r =>
      exact World.forsaken_operated ctx i r w k hforsaken
  | .binderDied k i =>
    intro hw
    rw [next_eq ctx w hw] at hspared
    have hnoticed : ((w.noticed k).withService none).Sound := hsound
    exact World.inTime_of_not_forsaken ctx i hnoticed hspared

theorem sound_initial : initial.Sound := by
  intro k hsent
  cases hsent

/-- **A client bound to a dead daemon waits for a notice, exactly as long as its lookups are
in time**: in a run where no step keeps a binder that was spent when it was linked, and in
no other, a notice is pending in every state that has the client bound to a dead daemon. -/
theorem watched_iff (events : List Event) :
    (∀ a b, events = a ++ b → ((system ctx).run initial a).Watched) ↔
      ∀ t ∈ (system ctx).steps initial events, LinksInTime t.1 t.2 := by
  refine (system ctx).always_iff (C := LinksInTime) (I := fun w => w.Owed ∧ w.Sound) (P := World.Watched)
    (fun w e hintime h => ⟨owed_next ctx w e hintime h.1, (sound_preserved ctx).next w e trivial h.2⟩)
    (fun w h k hk _ => h.1 k hk) (fun w e h hwatched => linksInTime_of_watched ctx w e h.2 hwatched)
    initial events ⟨World.owed_unbound initial rfl, sound_initial⟩

/-- The notice of a daemon's death finds its binder again, and no other notice comes. -/
theorem bound_to_the_dead :
    ∃ events : List Event, (system (.granting true)).Admits initial events ∧
      ¬ ((system (.granting true)).run initial events).Watched := by
  let i : Interleaving := { found := some 0, hal := .succeeding }
  let events : List Event := [.incident .restart, .fingerprintOpen true i, .incident (.crash 0),
    .incident (.obituary 0), .binderDied 0 i]
  have hforsaken : ((system (.granting true)).run initial events).Forsaken 0 :=
    ⟨by decide +kernel, by decide +kernel⟩
  have hsound : ((system (.granting true)).run initial events).Sound :=
    (sound_preserved _).run initial events sound_initial fun _ _ => trivial
  exact ⟨events, by decide +kernel, hforsaken.not_watched hsound⟩

end Client
end GoodixFingerprint
