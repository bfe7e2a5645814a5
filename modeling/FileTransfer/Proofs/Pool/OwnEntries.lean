import FileTransfer.Proofs.Pool.ReadDirectory

/-!
# Entries of the directory itself

A listing also tells of the listed directory and of its parent. Such a line is passed over for its type,
before anything else that it tells is looked at, so that no number or time of it can spoil the listing
of the others.

* `IsOwn`: the lines that are passed over.
* `read_eq_of_not_isOwn`: every other line is read as it is where none is passed over.
* `Padded`, `entries_of_padded`: a listing with such lines put in comes to what it comes to without.
* `Delivers`: a server that lists a directory to the end of the data.
* `own_entries_left_out`: lines by themselves, and the listings of two servers.
-/

namespace FileTransfer.Listing
open FileTransfer.Session
set_option autoImplicit false

/-! ## Lines -/

/-- A fact line whose type, in any case, is that of the listed directory itself or of its parent. -/
def IsOwn (line : String) : Prop :=
  ∃ facts path, IsFactLine line facts path ∧
    ∃ type ∈ ["cdir".toList, "pdir".toList, ".".toList, "..".toList], facts.Tells "type" type

section Lines
variable {line : String}

theorem IsOwn.read_eq (h : IsOwn line) : Entry.read line true = .ok none := by
  obtain ⟨facts, path, hline, type, hself, htype⟩ := h
  exact Entry.read_skipped hline htype hself

theorem read_eq_of_not_isOwn (h : ¬ IsOwn line) : Entry.read line true = Entry.read line false := by
  by_cases hwritten : ∃ facts path, IsFactLine line facts path
  case neg =>
    have hnot : ∀ facts path, ¬ IsFactLine line facts path :=
      fun facts path hline => hwritten ⟨facts, path, hline⟩
    rw [Entry.read_of_not_isFactLine hnot, Entry.read_of_not_isFactLine hnot]
  obtain ⟨facts, path, hline⟩ := hwritten
  rcases facts.tells_or_lacks "type" with ⟨type, htype⟩ | hlacks
  · have hother : type ∉ Facts.selfOrParent :=
      fun hself => h ⟨facts, path, hline, type, hself, htype⟩
    have hskipping : Entry.read line true = _ := Entry.read_of_type hline htype fun _ => hother
    have hkeeping : Entry.read line false = _ := Entry.read_of_type hline htype nofun
    rw [hskipping, hkeeping]
  · rw [Entry.read_of_lacks_type hline hlacks, Entry.read_of_lacks_type hline hlacks]

end Lines

/-! ## Listings -/

/-- The lines of a listing, and the same lines with some put in anywhere that are passed over. -/
inductive Padded : List String → List String → Prop
  | nil : Padded [] []
  | keep (line : String) {lines padded : List String} (h : Padded lines padded) :
      Padded (line :: lines) (line :: padded)
  | own {line : String} {lines padded : List String} (hown : IsOwn (Told.withoutEnd line))
      (h : Padded lines padded) : Padded lines (line :: padded)

theorem entries_of_padded {lines padded : List String} (h : Padded lines padded) :
    Told.entries padded = Told.entries lines := by
  induction h with
  | nil => rfl
  | keep line _ ih => rw [Told.entries, Told.entries, ih]
  | @own line lines padded hown _ ih =>
    rw [Told.entries_cons_of_ok hown.read_eq, ih]
    cases Told.entries lines with
    | ok es => rfl
    | error failure => rfl

/-- Lines each of which gives an entry are listed as these entries. -/
theorem entries_of_forall₂ {lines : List String} {es : List Entry}
    (h : List.Forall₂ (fun l e => Entry.read (Told.withoutEnd l) true = .ok (some e)) lines es) :
    Told.entries lines = .ok es := by
  refine (Told.entries_eq_ok_iff lines es).mpr ⟨es.map some, ?_, ?_⟩
  · exact List.forall₂_map_right_iff.mpr h
  · simp [List.reduceOption]

end FileTransfer.Listing

namespace FileTransfer.Pool
open FileTransfer.Listing FileTransfer.Reply FileTransfer.Session
set_option autoImplicit false

/-! ## Operations -/

variable {ω : Type} [Pool ω]

/-- The listing of a directory is carried out to its end: the server begins to send, the data channel
gives the lines and ends, the server says that all is done, and the connection can be given back. -/
inductive Delivers (path : RemotePath) (lines : List String) (w : ω) : Prop
  | complete {w' : ω} {id : Id} {h : Holding} {s : Stream} {first last : Frame}
      {rest : List Incoming} (hacquire : Pool.acquire w = (.ok id, w'))
      (hopen : Holding.openData { connection := (Pool.network w').connection id } = (.ok (), h))
      (hstream : h.stream = some s) (hsends : h.connection.sends.headD none = none)
      (hreplies : h.connection.replies = first.lines.map .ok ++ (last.lines.map .ok ++ rest))
      (hfirst : first.WellFormed) (hbegins : first.code / 100 = 1)
      (hread : s.read.1 = (lines, none))
      (hclose : ∀ failure, s.read.2.1.close.1 = .error failure →
        failure.isFault Fault.isSystem = true)
      (hlast : last.WellFormed) (hends : last.code / 100 = 2)
      (hrelease : (Pool.release id
        (Pool.converse id (Operation.readDirectory path).dialogue w').2).1 = .ok ())

theorem Delivers.perform_eq {path : RemotePath} {lines : List String} {w : ω}
    (h : Delivers path lines w) (hpath : hasLineBreak path.wire = false) :
    (Pool.perform (.readDirectory path) w).1 = (Told.listing lines).answer := by
  obtain @⟨w', id, h₁, s, first, last, rest, hacquire, hopen, hstream, hsends, hreplies, hfirst,
    hbegins, hread, hclose, hlast, hends, hrelease⟩ := h
  have hunbroken : ∀ failure, s.read.1.2 = some failure →
      failure.isFault (fun f => f.isOutage || f.isInvalid) = true := by
    intro failure hfailure
    rw [hread] at hfailure
    cases hfailure
  obtain ⟨h', broken?, htakes, -, hwhole, -⟩ := Holding.takes_fullData (hasLineBreak_listing hpath)
    hopen hstream hsends hfirst hreplies hunbroken hclose ((covers_iff _ _).mpr hbegins) hlast rfl
  rw [(covers_iff .positiveCompletion _).mpr hends, if_pos rfl, hwhole (by rw [hread]), hread]
    at htakes
  have htold := congrArg Prod.fst (htakes.map Told.listing).run_eq
  rw [Pool.perform_eq hacquire (.readDirectory path) htold, hrelease]
  rfl

/-- A line of the listed directory itself or of its parent gives no entry where such lines are passed
over, whatever else it tells, and otherwise never nothing; any other line comes to the same in both
cases. So a directory is listed as it would be by a server that does not send such lines: where every
other line gives an entry, as these entries in their order. -/
theorem own_entries_left_out (line : String) :
    (IsOwn line → Entry.read line true = .ok none ∧ Entry.read line false ≠ .ok none) ∧
    (¬ IsOwn line → Entry.read line true = Entry.read line false) ∧
    ∀ {ω ω' : Type} [Pool ω] [Pool ω'] (path : RemotePath) (w : ω) (v : ω')
      (lines padded : List String), hasLineBreak path.wire = false → Padded lines padded →
      Delivers path lines w → Delivers path padded v →
      (Pool.perform (.readDirectory path) v).1 = (Pool.perform (.readDirectory path) w).1 ∧
      ∀ es, List.Forall₂ (fun l e => Entry.read (Told.withoutEnd l) true = .ok (some e)) lines es →
        (Pool.perform (.readDirectory path) v).1 = .ok (.entries es) := by
  refine ⟨fun h => ⟨h.read_eq, Entry.read_ne_none line⟩, read_eq_of_not_isOwn, ?_⟩
  intro ω ω' _ _ path w v lines padded hpath hpadded hw hv
  have hsame : (Told.listing padded).answer = (Told.listing lines).answer :=
    congrArg (Answer.entries <$> ·) (entries_of_padded hpadded)
  rw [hv.perform_eq hpath, hw.perform_eq hpath, hsame]
  refine ⟨rfl, fun es hes => ?_⟩
  rw [Told.answer, entries_of_forall₂ hes]
  rfl

/-- A server that lists a directory in some lines. -/
def listingOf (lines : List String) : Script where
  replies := [.ok "150 here it comes", .ok "226 done"]
  transfers := [{ lines := lines }]

theorem delivers_listingOf (path : RemotePath) (lines : List String) :
    Delivers path lines (ReplayPool.ofScripts [listingOf lines] []) := by
  let s : Stream := ⟨0, { lines := lines }, none⟩
  let first : Frame := .short 150 (some "here it comes")
  let last : Frame := .short 226 (some "done")
  have hfirst : first.WellFormed := ⟨by decide, by decide, by simp [first, Frame.inside]⟩
  have hlast : last.WellFormed := ⟨by decide, by decide, by simp [last, Frame.inside]⟩
  have hclosed : s.read.2.1.close.1 = .ok () := rfl
  have hclose : ∀ failure, s.read.2.1.close.1 = .error failure →
      failure.isFault Fault.isSystem = true := by
    intro failure h
    rw [hclosed] at h
    cases h
  exact @Delivers.complete _ _ path lines _ _ _ _ s first last [] rfl rfl rfl rfl rfl hfirst
    (by decide) rfl hclose hlast (by decide) rfl

/-- Lines of the directory itself with a bad mode, size and time, around a sound one. -/
theorem own_entries_left_out_spoilt :
    let own := "Type=CDIR;size=big;unix.mode=9;modify=never; ."
    let file := "type=file;size=1;modify=20150216084148; f"
    ∃ e : Entry, e.name = "f" ∧ Entry.read own true = .ok none ∧
      Entry.read own false = .error (.undecodable (.malformedEntry own)) ∧
      (Pool.perform (.readDirectory (.plain "pub"))
        (ReplayPool.ofScripts [listingOf [own ++ "\r\n", file, own]] [])).1 =
          .ok (.entries [e]) := by
  intro own file
  have hline : IsFactLine own [("type".toList, "cdir".toList), ("size".toList, "big".toList),
      ("unix.mode".toList, "9".toList), ("modify".toList, "never".toList)] ".".toList :=
    isFactLine_iff.mpr
      ⟨"Type=CDIR;size=big;unix.mode=9;modify=never".toList, by decide, by decide⟩
  have hown : IsOwn own :=
    ⟨_, _, hline, "cdir".toList, by decide, (Facts.get?_eq_some_iff _).mp (by decide)⟩
  have hended : Told.withoutEnd (own ++ "\r\n") = own := by decide
  have hbare : Told.withoutEnd own = own := by decide
  have hpadded : Padded [file] [own ++ "\r\n", file, own] :=
    .own (hended.symm ▸ hown) (.keep file (.own (hbare.symm ▸ hown) .nil))
  obtain ⟨e, hread, hname⟩ : ∃ e, Entry.read (Told.withoutEnd file) true = .ok (some e) ∧
      e.name = "f" :=
    ⟨⟨"f", 1, 0o400, ⟨⟨2015, 2, 16, by decide⟩, ⟨8, 41, 48, 0, by decide⟩⟩, file⟩, by decide, rfl⟩
  obtain ⟨hskipped, -, hlisted⟩ := own_entries_left_out own
  obtain ⟨-, hentries⟩ := hlisted (.plain "pub") _ _ _ _ (by decide) hpadded
    (delivers_listingOf _ _) (delivers_listingOf _ _)
  exact ⟨e, hname, (hskipped hown).1, by decide, hentries [e] (.cons hread .nil)⟩

end FileTransfer.Pool
