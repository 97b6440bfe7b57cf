import PerlSymbols.Session.Service
import PerlSymbols.Proofs.Waiting.Crew
import Mathlib.Data.List.Nodup

/-!
# Which request a log record belongs to

Every record of a request carries the id that this request bound, also if it was woken after many
others bound and cleared theirs, and the variable of a request that ended holds nothing.
-/

namespace PerlSymbols

/-- The line that is written for a record shows this id, or none. -/
def Emission.Carries (e : Emission) (id : Option String) : Prop :=
  ∀ time, ((Log.Message.ofRecord e.record).stamped time e.request).get? "request_id" =
    id.map Value.text

theorem Emission.carries_id (record : Record) (id : String) :
    Emission.Carries ⟨some id, record⟩ (some id) := by
  intro time
  rw [Log.Message.stamped, Entries.get?_put, if_pos rfl, Option.map_some]

/-- A record that has no such field of its own shows the id that is bound where it is written. -/
theorem Emission.carries_own {record : Record}
    (h : (Entries.ofList record.fields).get? "request_id" = none) (request : Option String) :
    Emission.Carries ⟨request, record⟩ request := by
  cases request with
  | some id => exact carries_id record id
  | none =>
    intro time
    simp [Log.Message.stamped, Log.Message.ofRecord, Entries.get?_put, h]

namespace Session

namespace Service

/-! ## What is known of the requests -/

inductive Stage where
  | asked
  | begun
  | ended

/-- How far a request is, and the id that its context holds. -/
structure Standing where
  name : String
  stage : Stage
  context : Option String

/-- A request that has not begun has bound nothing, one that has begun holds the id that it bound,
and one that has ended holds none. -/
def Standing.Fits (bound : List (String × String)) (s : Standing) : Prop :=
  match s.stage with
  | .asked => s.context = none ∧ ∀ id, (s.name, id) ∉ bound
  | .begun => ∃ id, s.context = some id ∧ (s.name, id) ∈ bound
  | .ended => s.context = none

/-- What the others bind does not matter to a request. -/
theorem Standing.Fits.append {bound new : List (String × String)} {s : Standing}
    (h : s.Fits bound) (hnew : ∀ entry ∈ new, entry.1 ≠ s.name) : s.Fits (bound ++ new) := by
  obtain ⟨name, stage, context⟩ := s
  cases stage with
  | asked =>
    refine ⟨h.1, ?_⟩
    intro id hm
    rcases List.mem_append.mp hm with hm | hm
    · exact h.2 id hm
    · exact hnew _ hm rfl
  | begun =>
    obtain ⟨id, hc, hm⟩ := h
    exact ⟨id, hc, List.mem_append_left _ hm⟩
  | ended => exact h

/-- The contexts and the bindings are those of the requests. -/
structure Agree (standings : List Standing) (contexts : Entries String (Option String))
    (bound : List (String × String)) : Prop where
  distinct : (standings.map Standing.name).Nodup
  own : ∀ s ∈ standings, contexts.get? s.name = some s.context
  known : ∀ name context, contexts.get? name = some context → name ∈ standings.map Standing.name
  fits : ∀ s ∈ standings, s.Fits bound
  asked : ∀ entry ∈ bound, (contexts.get? entry.1).isSome
  once : (bound.map Prod.fst).Nodup

section Agree

variable {standings standings' : List Standing} {contexts : Entries String (Option String)}
  {bound : List (String × String)}

theorem Agree.perm (h : Agree standings contexts bound) (hp : standings'.Perm standings) :
    Agree standings' contexts bound where
  distinct := (hp.map _).nodup_iff.mpr h.distinct
  own s hs := h.own s (hp.mem_iff.mp hs)
  known name context hc := (hp.map _).mem_iff.mpr (h.known name context hc)
  fits s hs := h.fits s (hp.mem_iff.mp hs)
  asked := h.asked
  once := h.once

theorem Agree.ask (h : Agree standings contexts bound) {name : String}
    (hnew : contexts.get? name = none) :
    Agree (⟨name, .asked, none⟩ :: standings) (contexts.put name none) bound := by
  have hother : ∀ s ∈ standings, name ≠ s.name := by
    rintro s hs rfl
    rw [h.own s hs] at hnew
    cases hnew
  constructor
  case distinct =>
    refine List.nodup_cons.mpr ⟨?_, h.distinct⟩
    intro hm
    obtain ⟨s, hs, he⟩ := List.mem_map.mp hm
    exact hother s hs he.symm
  case own =>
    rintro s (_ | ⟨_, hs⟩)
    · rw [Entries.get?_put, if_pos rfl]
    · rw [Entries.get?_put, if_neg (hother s hs)]
      exact h.own s hs
  case known =>
    intro name' context hc
    rw [Entries.get?_put] at hc
    split at hc
    · next he => exact he ▸ List.mem_cons_self
    · exact List.mem_cons_of_mem _ (h.known name' context hc)
  case fits =>
    rintro s (_ | ⟨_, hs⟩)
    · refine ⟨rfl, ?_⟩
      intro id hm
      have hsome := h.asked _ hm
      simp [hnew] at hsome
    · exact h.fits s hs
  case asked =>
    intro entry hm
    rw [Entries.get?_put]
    split
    · rfl
    · exact h.asked entry hm
  case once => exact h.once

/-- A request has its turn: its own context and its own bindings may change. -/
theorem Agree.turn {s s' : Standing} {contexts' : Entries String (Option String)}
    {new : List (String × String)} (h : Agree (s :: standings) contexts bound)
    (hname : s'.name = s.name)
    (hcontexts : ∀ name, contexts'.get? name =
      if s.name = name then some s'.context else contexts.get? name)
    (hnew : ∀ entry ∈ new, entry.1 = s.name) (honce : ((bound ++ new).map Prod.fst).Nodup)
    (hfits : s'.Fits (bound ++ new)) : Agree (s' :: standings) contexts' (bound ++ new) := by
  -- Names are distinct, so what changes under this one is nobody else's.
  have hown : ∀ t ∈ standings, s.name ≠ t.name := by
    intro t ht he
    exact (List.nodup_cons.mp h.distinct).1 (he ▸ List.mem_map_of_mem ht)
  constructor
  case distinct =>
    rw [List.map_cons, hname]
    exact h.distinct
  case own =>
    rintro t (_ | ⟨_, ht⟩)
    · rw [hcontexts, if_pos hname.symm]
    · rw [hcontexts, if_neg (hown t ht)]
      exact h.own t (List.mem_cons_of_mem _ ht)
  case known =>
    intro name context hc
    rw [List.map_cons, hname]
    rw [hcontexts] at hc
    split at hc
    · next he => exact he ▸ List.mem_cons_self
    · exact h.known name context hc
  case fits =>
    rintro t (_ | ⟨_, ht⟩)
    · exact hfits
    · refine (h.fits t (List.mem_cons_of_mem _ ht)).append ?_
      intro entry hm
      rw [hnew entry hm]
      exact hown t ht
  case asked =>
    intro entry hm
    rw [hcontexts]
    split
    · rfl
    · next hne =>
      rcases List.mem_append.mp hm with hm | hm
      · exact h.asked entry hm
      · exact absurd (hnew entry hm).symm hne
  case once => exact honce

theorem Agree.bind {name id : String} {context : Option String} {s' : Standing}
    (h : Agree (⟨name, .asked, context⟩ :: standings) contexts bound) (hname : s'.name = name)
    (hfits : s'.Fits (bound ++ [(name, id)])) :
    Agree (s' :: standings) (contexts.put name s'.context) (bound ++ [(name, id)]) := by
  refine h.turn hname (fun _ => Entries.get?_put ..) (by simp) ?_ hfits
  rw [List.map_append, List.nodup_append]
  refine ⟨h.once, by simp, ?_⟩
  rintro a ha b hb rfl
  obtain rfl : a = name := by simpa using hb
  obtain ⟨⟨a, id'⟩, hm, rfl⟩ := List.mem_map.mp ha
  exact (h.fits _ List.mem_cons_self).2 id' hm

theorem Agree.finish {s : Standing} {contexts' : Entries String (Option String)}
    (h : Agree (s :: standings) contexts bound)
    (hcontexts : ∀ name, contexts'.get? name =
      if s.name = name then some none else contexts.get? name) :
    Agree (⟨s.name, .ended, none⟩ :: standings) contexts' bound := by
  rw [← List.append_nil bound]
  refine h.turn rfl hcontexts (by simp) ?_ rfl
  rw [List.append_nil]
  exact h.once

end Agree

/-! ## The requests of a service -/

/-- A member of the crew has begun if it has a ticket. -/
def standingOf (member : Task Seconds × Option (Ticket Seconds)) : Standing where
  name := member.1.id
  stage := if member.2.isSome then .begun else .asked
  context := member.1.request

def roll (crew : List (Task Seconds × Option (Ticket Seconds))) (hovers ended : List String) :
    List Standing :=
  crew.map standingOf ++ (hovers.map (⟨·, .asked, none⟩) ++ ended.map (⟨·, .ended, none⟩))

def standings (v : Service) : List Standing :=
  roll v.session.room.crew (v.hovers.map HoverCall.name) v.ended

section Roll

variable {crew crew' : List (Task Seconds × Option (Ticket Seconds))}
  {hovers hovers' ended ended' : List String}

theorem roll_perm (hc : crew.Perm crew') (hh : hovers.Perm hovers') (he : ended.Perm ended') :
    (roll crew hovers ended).Perm (roll crew' hovers' ended') :=
  (hc.map _).append ((hh.map _).append (he.map _))

theorem roll_hover (name : String) :
    (roll crew (name :: hovers) ended).Perm (⟨name, .asked, none⟩ :: roll crew hovers ended) :=
  List.perm_middle

theorem roll_ended (name : String) :
    (roll crew hovers (name :: ended)).Perm (⟨name, .ended, none⟩ :: roll crew hovers ended) :=
  (List.perm_middle.append_left _).trans List.perm_middle

end Roll

/-- What every step keeps. -/
structure Tidy (v : Service) : Prop where
  /-- No id is bound where requests come from. -/
  caller : v.session.request = none
  agree : Agree v.standings v.contexts v.bound
  /-- The ids that were bound are the ids that were made. -/
  made : v.bound.map Prod.snd = v.session.room.drawn
  outlines : ∀ member ∈ v.session.room.crew, ∃ patience, member.1.goal = .outline patience

section Tidy

variable {v : Service}

/-- What neither lets a request come nor gives one its turn. -/
theorem Tidy.between (h : v.Tidy) {s : Session} {hovers : List HoverCall}
    (hcaller : s.request = v.session.request) (hcrew : s.room.crew.Perm v.session.room.crew)
    (hfinished : s.room.finished = v.session.room.finished)
    (hrequests : s.room.requests = v.session.room.requests)
    (hids : s.room.ids = v.session.room.ids)
    (hhovers : hovers.map HoverCall.name = v.hovers.map HoverCall.name) :
    Tidy { v with session := s, hovers } where
  caller := hcaller.trans h.caller
  agree := by
    refine h.agree.perm (roll_perm hcrew (.of_eq hhovers) (.of_eq ?_))
    simp only [ended, hfinished]
  made := by
    rw [Room.drawn, hrequests, hids]
    exact h.made
  outlines member hm := h.outlines member (hcrew.mem_iff.mp hm)

theorem Tidy.change (h : v.Tidy) (caller : Option String) {f : Session → Session}
    (hcrew : ∀ s, (f s).room.crew.Perm s.room.crew)
    (hfinished : ∀ s, (f s).room.finished = s.room.finished)
    (hrequests : ∀ s, (f s).room.requests = s.room.requests)
    (hids : ∀ s, (f s).room.ids = s.room.ids) : (v.change caller f).Tidy :=
  h.between rfl (hcrew _) (hfinished _) (hrequests _) (hids _) rfl

theorem Tidy.askHover (h : v.Tidy) {name : String} (uri : String) (position : Position)
    (hnew : v.contexts.get? name = none) : (v.askHover name uri position).Tidy where
  caller := h.caller
  agree := by
    have hnames : ((v.askHover name uri position).hovers.map HoverCall.name).Perm
        (name :: v.hovers.map HoverCall.name) := by
      simp only [Service.askHover, List.map_append, List.map_cons, List.map_nil]
      exact List.perm_append_singleton _ _
    rw [Service.askHover, h.caller]
    exact (h.agree.ask hnew).perm ((roll_perm (.refl _) hnames (.refl _)).trans (roll_hover name))
  made := h.made
  outlines := h.outlines

theorem Tidy.askOutline (h : v.Tidy) {name : String} (uri : String)
    (hnew : v.contexts.get? name = none) : (v.askOutline name uri).Tidy where
  caller := h.caller
  agree := by
    have hcrew := v.session.room.start_crew (v.session.outlineTask name uri)
    rw [Service.askOutline, h.caller]
    exact (h.agree.ask hnew).perm (roll_perm hcrew (.refl _) (.refl _))
  made := h.made
  outlines member hm := by
    rcases List.mem_cons.mp ((v.session.room.start_crew _).mem_iff.mp hm) with rfl | hm
    · exact ⟨_, rfl⟩
    · exact h.outlines member hm

theorem Tidy.made_snoc (h : v.Tidy) (name : String) {room : Room Seconds}
    (hrequests : room.requests = v.session.room.requests + 1)
    (hids : room.ids = v.session.room.ids) :
    (v.bound ++ [(name, v.nextId)]).map Prod.snd = room.drawn := by
  have hdrawn : room.drawn = v.session.room.drawn ++ [v.nextId] := by
    rw [Room.drawn, hrequests, hids, List.range_succ, List.map_append]
    rfl
  rw [hdrawn, ← h.made, List.map_append]
  rfl

theorem Tidy.serveHover (h : v.Tidy) {before after : List HoverCall} {call : HoverCall}
    (hq : v.hovers = before ++ call :: after) : (v.serveHover call (before ++ after)).Tidy := by
  have hnames : (v.hovers.map HoverCall.name).Perm
      (call.name :: (before ++ after).map HoverCall.name) := by
    rw [hq]
    exact List.perm_middle.map HoverCall.name
  have hagree := h.agree.perm
    ((roll_perm (.refl _) hnames (.refl _)).trans (roll_hover call.name)).symm
  have hended : ∀ result : Option (Except RequestError (Option Hover.Contents)),
      (roll v.session.room.crew ((before ++ after).map HoverCall.name)
        (v.session.room.finished.map Prod.fst ++
          (v.answered ++ [(call.name, result)]).map Prod.fst)).Perm
      (⟨call.name, .ended, none⟩ ::
        roll v.session.room.crew ((before ++ after).map HoverCall.name) v.ended) := by
    intro result
    refine (roll_perm (.refl _) (.refl _) ?_).trans (roll_ended call.name)
    rw [List.map_append, ← List.append_assoc]
    exact List.perm_append_singleton _ _
  unfold Service.serveHover
  split
  · constructor
    case caller => exact h.caller
    case agree =>
      refine (hagree.finish ?_).perm (hended none)
      intro name
      split
      · next he => exact he ▸ hagree.own _ List.mem_cons_self
      · rfl
    case made => exact h.made
    case outlines => exact h.outlines
  · constructor
    case caller => exact h.caller
    case agree =>
      have hfits : Standing.Fits (v.bound ++ [(call.name, v.nextId)])
          ⟨call.name, .ended, none⟩ := rfl
      exact (hagree.bind rfl hfits).perm (hended _)
    case made => exact h.made_snoc call.name rfl rfl
    case outlines => exact h.outlines

section Outline

variable {before after : List (Runnable Seconds)} {r : Runnable Seconds}

theorem Tidy.agree_front (h : v.Tidy) (hq : v.session.room.queue = before ++ r :: after) :
    Agree (standingOf (r.task, r.wake.ticket?) ::
      (v.setRoom { v.session.room with queue := before ++ after }).standings)
      v.contexts v.bound :=
  h.agree.perm (roll_perm (Room.crew_perm_of_queue hq) (.refl _) (.refl _)).symm

theorem Tidy.not_finished (h : v.Tidy) (hq : v.session.room.queue = before ++ r :: after) :
    v.session.room.hasFinished r.task.id = false := by
  rw [← Bool.not_eq_true]
  intro hm
  obtain ⟨entry, hm, he⟩ := List.any_eq_true.mp hm
  have hended : r.task.id ∈ v.ended :=
    List.mem_append_left _ (List.mem_map.mpr ⟨entry, hm, by simpa using he⟩)
  refine (List.nodup_cons.mp (h.agree_front hq).distinct).1 ?_
  refine List.mem_map.mpr ⟨⟨r.task.id, .ended, none⟩, ?_, rfl⟩
  refine List.mem_append_right _ (List.mem_append_right _ ?_)
  exact List.mem_map.mpr ⟨_, hended, rfl⟩

theorem standings_ended {room : Room Seconds} {name : String} {outcome : Outcome}
    (hcrew : room.crew = ({ v.session.room with queue := before ++ after } : Room Seconds).crew)
    (hfinished : room.finished = v.session.room.finished ++ [(name, outcome)]) :
    (v.setRoom room).standings.Perm (⟨name, .ended, none⟩ ::
      (v.setRoom { v.session.room with queue := before ++ after }).standings) := by
  refine (roll_perm (.of_eq hcrew) (.refl _) ?_).trans (roll_ended name)
  simp only [setRoom, ended, hfinished, List.map_append, List.map_cons, List.map_nil,
    List.append_assoc]
  exact List.perm_middle

theorem hasFinished_of_snoc {room : Room Seconds} {name : String} {outcome : Outcome}
    {others : List (String × Outcome)} (h : room.finished = others ++ [(name, outcome)]) :
    room.hasFinished name = true := by
  simp [Room.hasFinished, h]

theorem Tidy.outlines_rest (h : v.Tidy) (hq : v.session.room.queue = before ++ r :: after) :
    ∀ member ∈ ({ v.session.room with queue := before ++ after } : Room Seconds).crew,
      ∃ patience, member.1.goal = .outline patience := by
  intro member hm
  exact h.outlines member ((Room.crew_perm_of_queue hq).mem_iff.mpr (List.mem_cons_of_mem _ hm))

/-- The turn in which a request begins. -/
theorem Tidy.serveOutline_begin (h : v.Tidy) {task : Task Seconds} {n : Nat}
    (hq : v.session.room.queue = before ++ ⟨task, .begin, n⟩ :: after) :
    (v.serveOutline ⟨task, .begin, n⟩ (before ++ after)).Tidy := by
  obtain ⟨patience, hgoal⟩ :=
    h.outlines _ ((Room.crew_perm_of_queue hq).mem_iff.mpr List.mem_cons_self)
  have hagree := h.agree_front hq
  obtain ⟨hrequests, -, hturn⟩ :=
    Room.begin_outline { v.session.room with queue := before ++ after } hgoal
  have hids := Room.resume_ids { v.session.room with queue := before ++ after } task .begin
  simp only [Service.serveOutline, Room.resume] at hids ⊢
  generalize Room.begin _ task = room at hrequests hids hturn ⊢
  have hmade := h.made_snoc task.id hrequests hids
  -- The id is made and bound in either case; if the request ends at once, it is cleared again.
  rcases hturn with ⟨hcrew, outcome, hfinished⟩ | ⟨hfinished, ticket, hcrew⟩
  · rw [hasFinished_of_snoc hfinished]
    constructor
    case caller => exact h.caller
    case agree =>
      have hfits : Standing.Fits (v.bound ++ [(task.id, v.nextId)]) ⟨task.id, .ended, none⟩ := rfl
      exact (hagree.bind rfl hfits).perm (standings_ended hcrew hfinished)
    case made => exact hmade
    case outlines =>
      intro member hm
      exact h.outlines_rest hq member (hcrew ▸ hm)
  · have hlive : room.hasFinished task.id = false := by
      rw [← h.not_finished hq, Room.hasFinished, hfinished]
      rfl
    rw [hlive]
    constructor
    case caller => exact h.caller
    case agree =>
      have hfits : Standing.Fits (v.bound ++ [(task.id, v.nextId)])
          ⟨task.id, .begun, some v.nextId⟩ := ⟨v.nextId, rfl, by simp⟩
      refine (hagree.bind rfl hfits).perm (roll_perm hcrew (.refl _) (.of_eq ?_))
      simp only [ended, setRoom, hfinished]
    case made => exact hmade
    case outlines =>
      intro member hm
      rcases List.mem_cons.mp (hcrew.mem_iff.mp hm) with rfl | hm
      · exact ⟨patience, hgoal⟩
      · exact h.outlines_rest hq member hm

/-- The turn in which a request ends that was woken, or cancelled before it began. -/
theorem Tidy.serveOutline_ends (h : v.Tidy) (hq : v.session.room.queue = before ++ r :: after)
    (hw : r.wake ≠ .begin) : (v.serveOutline r (before ++ after)).Tidy := by
  have hagree := h.agree_front hq
  obtain ⟨hrequests, hcrew, ⟨outcome, hfinished⟩, -⟩ :=
    Room.resume_ends { v.session.room with queue := before ++ after } r.task hw
  have hids := Room.resume_ids { v.session.room with queue := before ++ after } r.task r.wake
  simp only [Service.serveOutline]
  generalize Room.resume _ r.task r.wake = room at hrequests hids hcrew hfinished ⊢
  have hcontext : (contextAfter (v.contextOf r.task.id) r.wake true).request = none := by
    obtain ⟨task, wake, n⟩ := r
    cases wake with
    | begin => exact absurd rfl hw
    | abandoned =>
      -- It clears nothing, but the copy that it got was empty.
      have hown := hagree.own _ List.mem_cons_self
      show (v.contexts.get? task.id).join = none
      rw [show v.contexts.get? task.id = some task.request from hown]
      exact (hagree.fits _ List.mem_cons_self).1
    | published ticket | expired ticket | cancelled ticket => rfl
  rw [hasFinished_of_snoc hfinished, hcontext]
  constructor
  case caller => exact h.caller
  case agree =>
    exact (hagree.finish fun _ => Entries.get?_put ..).perm (standings_ended hcrew hfinished)
  case made =>
    show _ = room.drawn
    rw [Room.drawn, hrequests, hids]
    exact h.made
  case outlines =>
    intro member hm
    exact h.outlines_rest hq member (hcrew ▸ hm)

theorem Tidy.serveOutline (h : v.Tidy) (hq : v.session.room.queue = before ++ r :: after) :
    (v.serveOutline r (before ++ after)).Tidy := by
  by_cases hw : r.wake = .begin
  · obtain ⟨task, wake, n⟩ := r
    subst hw
    exact h.serveOutline_begin hq
  · exact h.serveOutline_ends hq hw

end Outline

theorem Tidy.step (h : v.Tidy) {author : Author} {v' : Service} (hs : Step v author v') :
    v'.Tidy := by
  cases hs with
  | publish caller doc =>
    exact h.change caller (fun s => s.room.publish_crew _ doc) (fun _ => rfl) (fun _ => rfl)
      fun _ => rfl
  | close caller uri =>
    have hkeeps := fun s : Session => s.room.discard_keeps s.request uri
    exact h.change caller (fun s => .of_eq (hkeeps s).1) (fun s => (hkeeps s).2.1)
      (fun s => (hkeeps s).2.2) fun s => s.room.discard_ids s.request uri
  | setModules caller modules =>
    exact h.change caller (fun _ => .refl _) (fun _ => rfl) (fun _ => rfl) fun _ => rfl
  | openText caller uri text =>
    exact h.change caller (fun _ => .refl _) (fun _ => rfl) (fun _ => rfl) fun _ => rfl
  | askHover name uri position hnew => exact h.askHover uri position hnew
  | askOutline name uri hnew => exact h.askOutline uri hnew
  | cancel name =>
    refine h.between rfl (Room.cancel_crew _ name) rfl rfl rfl ?_
    rw [List.map_map]
    refine List.map_congr_left fun call _ => ?_
    dsimp only [Function.comp]
    split <;> rfl
  | expire which count =>
    exact h.between rfl (Room.wakeWhere_crew _ which count fun _ => rfl) rfl rfl rfl rfl
  | elapse instant => exact h.between rfl (.refl _) rfl rfl rfl rfl
  | handOn n hq => exact h.between rfl (Room.handOn_crew n hq) rfl rfl rfl rfl
  | hover hq => exact h.serveHover hq
  | outline hq => exact h.serveOutline hq

theorem Reachable.tidy (h : v.Reachable) : v.Tidy := by
  induction h with
  | opened settings ids =>
    refine ⟨rfl, ?_, rfl, by simp [Room.ofIndex, Room.crew]⟩
    constructor <;> simp [standings, roll, ended, Room.crew, Room.ofIndex, Entries.get?]
  | step _ hs ih => exact ih.step hs

end Tidy

/-! ## Records -/

/-- What a record shows of its author. Nobody writes nothing. -/
def Author.Signs (bound : List (String × String)) (e : Emission) : Author → Prop
  | .workspace caller => e.Carries caller
  | .request name => ∃ id, (name, id) ∈ bound ∧ e.Carries (some id)
  | .nobody => False

def Signed (author : Author) (v v' : Service) : Prop :=
  ∃ written, v'.session.room.emissions = v.session.room.emissions ++ written ∧
    ∀ e ∈ written, author.Signs v'.bound e

section Records

variable {v v' : Service} {author : Author}

theorem signed_of_silent (h : v'.session.room.emissions = v.session.room.emissions) :
    Signed author v v' :=
  ⟨[], by rw [h, List.append_nil], by simp⟩

theorem signed_of_workspace {caller : Option String} (record : Record)
    (hwritten : v'.session.room.emissions = v.session.room.emissions ++ [⟨caller, record⟩])
    (hplain : (Entries.ofList record.fields).get? "request_id" = none) :
    Signed (.workspace caller) v v' := by
  refine ⟨_, hwritten, ?_⟩
  intro e he
  rw [List.mem_singleton.mp he]
  exact Emission.carries_own hplain caller

theorem signed_of_request {name id : String} {records : List Record}
    (hwritten : v'.session.room.emissions =
      v.session.room.emissions ++ records.map fun record => ⟨some id, record⟩)
    (hbound : (name, id) ∈ v'.bound) : Signed (.request name) v v' := by
  refine ⟨_, hwritten, ?_⟩
  intro e he
  obtain ⟨record, -, rfl⟩ := List.mem_map.mp he
  exact ⟨id, hbound, Emission.carries_id record id⟩

theorem signed_close (v : Service) (caller : Option String) (uri : String) :
    Signed (.workspace caller) v (v.change caller (·.closeDocument uri)) := by
  by_cases hc : v.session.room.index.docs.contains uri
  · refine signed_of_workspace ⟨.debug, "document_discarded", [("uri", .text uri)]⟩ ?_ rfl
    simp only [change, closeDocument, Room.discard, if_pos hc]
    rfl
  · apply signed_of_silent
    simp only [change, closeDocument, Room.discard, if_neg hc]

theorem signed_hover (v : Service) (call : HoverCall) (others : List HoverCall) :
    Signed (.request call.name) v (v.serveHover call others) := by
  unfold serveHover
  split
  · exact signed_of_silent rfl
  · exact signed_of_request rfl (List.mem_append_right _ (List.mem_singleton_self _))

theorem Tidy.signed_outline (h : v.Tidy) {before after : List (Runnable Seconds)}
    {r : Runnable Seconds} (hq : v.session.room.queue = before ++ r :: after) :
    Signed (.request r.task.id) v (v.serveOutline r (before ++ after)) := by
  by_cases hw : r.wake = .begin
  · obtain ⟨patience, hgoal⟩ :=
      h.outlines _ ((Room.crew_perm_of_queue hq).mem_iff.mpr List.mem_cons_self)
    apply signed_of_silent
    simp only [Service.serveOutline, setRoom, hw, Room.resume]
    exact (Room.begin_outline _ hgoal).2.1
  · obtain ⟨-, -, -, records, hnone, hwritten⟩ :=
      Room.resume_ends { v.session.room with queue := before ++ after } r.task hw
    cases hticket : r.wake.ticket? with
    | none =>
      rw [hnone hticket, List.map_nil, List.append_nil] at hwritten
      exact signed_of_silent hwritten
    | some ticket =>
      -- It was woken, so it bound an id when it began, and its task still has it.
      have hfits := (h.agree_front hq).fits _ List.mem_cons_self
      obtain ⟨id, hrequest, hbound⟩ : ∃ id, r.task.request = some id ∧
          (r.task.id, id) ∈ v.bound := by
        simpa [Standing.Fits, standingOf, hticket] using hfits
      rw [hrequest] at hwritten
      refine signed_of_request hwritten ?_
      simpa only [Service.serveOutline] using hbound

theorem Tidy.signed (h : v.Tidy) (hs : Step v author v') : Signed author v v' := by
  cases hs with
  | publish caller doc => exact signed_of_workspace _ rfl rfl
  | close caller uri => exact signed_close v caller uri
  | setModules caller modules => exact signed_of_workspace _ rfl rfl
  | hover hq => exact signed_hover v _ _
  | outline hq => exact h.signed_outline hq
  | openText | askHover | askOutline | cancel | expire | elapse | handOn =>
    exact signed_of_silent rfl

end Records

/-! ## The theorem -/

theorem ended_of_standing {v : Service} {s : Standing} (hs : s ∈ v.standings)
    (hstage : s.stage = .ended) : s.name ∈ v.ended := by
  rcases List.mem_append.mp hs with hs | hs
  · obtain ⟨member, -, rfl⟩ := List.mem_map.mp hs
    simp only [standingOf] at hstage
    split at hstage <;> cases hstage
  · rcases List.mem_append.mp hs with hs | hs
    · obtain ⟨name, -, rfl⟩ := List.mem_map.mp hs
      cases hstage
    · obtain ⟨name, hm, rfl⟩ := List.mem_map.mp hs
      exact hm

/-- **Records are correlated.** After every run, whatever is written next shows the id that its
request bound, or what its caller has bound if it belongs to no request; the id of a request stays
in its context until it ends; a request has one id, and no other request has it unless the generator
gave it out twice; and nothing stays in the context of a request that ended. -/
theorem requests_correlate {v : Service} (h : v.Reachable) :
    (∀ author v', Step v author v' →
      ∃ written, v'.session.room.emissions = v.session.room.emissions ++ written ∧
        ∀ e ∈ written, author.Signs v'.bound e) ∧
    (∀ name id, (name, id) ∈ v.bound →
      v.contexts.get? name = some (some id) ∧ name ∉ v.ended ∨
      v.contexts.get? name = some none ∧ name ∈ v.ended) ∧
    (∀ name id id', (name, id) ∈ v.bound → (name, id') ∈ v.bound → id = id') ∧
    (v.session.room.drawn.Nodup →
      ∀ name name' id, (name, id) ∈ v.bound → (name', id) ∈ v.bound → name = name') ∧
    ∀ name ∈ v.ended, v.contexts.get? name = some none := by
  have htidy := h.tidy
  obtain ⟨-, hown, hknown, hfits, hasked, honce⟩ := htidy.agree
  have hended : ∀ name ∈ v.ended, v.contexts.get? name = some none := by
    intro name hm
    refine hown ⟨name, .ended, none⟩ ?_
    exact List.mem_append_right _ (List.mem_append_right _ (List.mem_map_of_mem hm))
  have hsame : ∀ name id id', (name, id) ∈ v.bound → (name, id') ∈ v.bound → id = id' := by
    intro name id id' hm hm'
    exact congrArg Prod.snd (List.inj_on_of_nodup_map honce hm hm' rfl)
  refine ⟨fun author v' => htidy.signed, ?_, hsame, ?_, hended⟩
  · intro name id hm
    obtain ⟨context, hc⟩ := Option.isSome_iff_exists.mp (hasked _ hm)
    obtain ⟨s, hs, rfl⟩ := List.mem_map.mp (hknown name context hc)
    have hs' := hfits s hs
    unfold Standing.Fits at hs'
    split at hs'
    · exact absurd hm (hs'.2 id)
    · obtain ⟨id', hid, hm'⟩ := hs'
      have hlive : v.contexts.get? s.name = some (some id) := by
        rw [hown s hs, hid, hsame _ _ _ hm' hm]
      refine Or.inl ⟨hlive, ?_⟩
      intro he
      rw [hended _ he] at hlive
      cases hlive
    · next hstage =>
      have he := ended_of_standing hs hstage
      exact Or.inr ⟨hended _ he, he⟩
  · intro hnew name name' id hm hm'
    have hids : (v.bound.map Prod.snd).Nodup := htidy.made ▸ hnew
    exact congrArg Prod.fst (List.inj_on_of_nodup_map hids hm hm' rfl)

/-- A hover is asked for and served while a request for an outline waits. -/
theorem requests_correlate_overlap :
    ∃ (v : Service) (r : Runnable Seconds), v.Reachable ∧ v.session.room.queue = [r] ∧
      v.session.room.drawn.Nodup ∧
      v.bound = [("a", "000000000001"), ("b", "000000000002")] ∧
      v.contexts.get? "a" = some (some "000000000001") ∧ v.contexts.get? "b" = some none ∧
      ∃ written, (v.serveOutline r []).session.room.emissions =
          v.session.room.emissions ++ written ∧
        written.length = 2 ∧ ∀ e ∈ written, e.Carries (some "000000000001") := by
  have h0 := Reachable.opened {} Log.countingIds
  have h1 := h0.step (.askOutline "a" "file:///A.pm" rfl)
  have h2 := h1.step (.outline (show _ = [] ++ _ :: [] from rfl))
  have h3 := h2.step (.askHover "b" "file:///A.pm" ⟨0, 0⟩ rfl)
  have h4 := h3.step (.hover (show _ = [] ++ _ :: [] from rfl))
  have h5 := h4.step (.expire (fun _ => true) 0)
  obtain ⟨hsigned, hheld, hone, -, hended⟩ := requests_correlate h5
  refine ⟨_, _, h5, rfl, ?_, rfl, ?_, ?_, ?_⟩
  · show ["000000000001", "000000000002"].Nodup
    decide
  · rcases hheld "a" "000000000001" List.mem_cons_self with ⟨hc, -⟩ | ⟨-, hm⟩
    · exact hc
    · exact absurd (List.mem_singleton.mp hm) (by decide)
  · exact hended "b" (List.mem_singleton_self _)
  · obtain ⟨written, hwritten, hsigns⟩ := hsigned _ _ (.outline (show _ = [] ++ _ :: [] from rfl))
    refine ⟨written, hwritten, ?_, ?_⟩
    · have hlength : 3 = 1 + written.length :=
        (congrArg List.length hwritten).trans List.length_append
      omega
    · intro e he
      obtain ⟨id, hm, hcarries⟩ := hsigns e he
      rwa [hone "a" id _ hm List.mem_cons_self] at hcarries

end Service

end Session

end PerlSymbols
