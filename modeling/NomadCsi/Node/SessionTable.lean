import NomadCsi.Lib.Decimal
import NomadCsi.Lib.Lines
import NomadCsi.Node.Host

/-!
# The session table

`iscsi.ListSessions` reads the sessions off the output of `iscsiadm -m session -P 3`
(`parseSessions`): a machine that takes one line at a time and keeps the target and portal
it is below and a session whose disk line may still come. `TargetLine.lines` is the layout, with
any indentation and any other lines in between.
-/

namespace NomadCsi.Node

open Lib Lib.Go

/-! ### The machine -/

structure Parsing where
  out : List Session
  iqn : String
  portal : String
  pend : Option Session

namespace Parsing

def start : Parsing := ⟨[], "", "", none⟩

def flush (s : Parsing) : Parsing := { s with out := s.out ++ s.pend.toList, pend := none }

end Parsing

def firstField (s : String) : String := (fields s).head?.getD ""

/-- The text before the first comma. -/
def stripTPGT (portal : String) : String := String.ofList (portal.toList.takeWhile (· ≠ ','))

/-- The number in the field after the first `Lun:` that has one. -/
def lunIn : List String → Option Int
  | f :: g :: rest => if f = "Lun:" then atoi g else lunIn (g :: rest)
  | _ => none

def lunOf (line : String) : Option Int := lunIn (fields line)

/-- The field after the first `disk` that has one. -/
def diskIn : List String → String
  | f :: g :: rest => if f = "disk" then g else diskIn (g :: rest)
  | _ => ""

def attachedDisk (line : String) : String := diskIn (fields line)

/-- The session with its disk, if the line names one. -/
def Session.withDisk (s : Session) (line : String) : Session :=
  if attachedDisk line ≠ "" then { s with device := "/dev/" ++ attachedDisk line } else s

def Parsing.step (s : Parsing) (raw : String) : Parsing :=
  let line := trimSpace raw
  if hasPrefix line "Target:" then
    { s.flush with iqn := firstField (trimPrefix line "Target:"), portal := "" }
  else if hasPrefix line "Current Portal:" then
    { s.flush with portal := stripTPGT (firstField (trimPrefix line "Current Portal:")) }
  else if hasPrefix line "scsi" && contains line "Lun:" then
    { s.flush with
      pend := (lunOf line).bind fun lun =>
        if s.iqn ≠ "" then some ⟨s.iqn, s.portal, lun, ""⟩ else none }
  else if hasPrefix line "Attached scsi disk" then
    { s with pend := s.pend.map fun p => p.withDisk line }
  else s

def parseSessions (text : String) : List Session :=
  ((split text '\n').foldl Parsing.step .start).flush.out

/-! ### The layout -/

/-- The beginnings of a line that mean something. -/
def recognised : List String := ["Target:", "Current Portal:", "scsi", "Attached scsi disk"]

structure Word where
  text : String
  ne : text.toList ≠ []
  solid : Solid text.toList

/-- A number as it is written, with leading zeros or without. -/
structure Numeral extends Word where
  digit : ∀ c ∈ text.toList, c.isDigit = true

structure HostAddress where
  text : String
  solid : Solid text.toList
  comma : ',' ∉ text.toList

structure Span where
  text : String
  line : '\n' ∉ text.toList

structure Indent where
  text : String
  blank : ∀ c ∈ text.toList, isSpace c = true
  line : '\n' ∉ text.toList

/-- A line that begins, behind its indentation, with none of the recognised texts. -/
structure Noise extends Span where
  other : ∀ p ∈ recognised, hasPrefix (trimSpace text) p = false

/-- What stands before a line: other lines, and its indentation. -/
structure Lead where
  noise : List Noise
  indent : Indent

def Lead.lines (l : Lead) (text : String) : List String :=
  l.noise.map (·.text) ++ [l.indent.text ++ text]

structure DiskLine where
  lead : Lead
  name : Word
  state : Span

structure LunLine where
  lead : Lead
  host : Numeral
  channel : Numeral
  id : Numeral
  lun : Int
  fits : -2 ^ 63 ≤ lun ∧ lun < 2 ^ 63
  disk : Option DiskLine

structure PortalLine where
  lead : Lead
  address : HostAddress
  tpgt : Numeral
  luns : List LunLine

structure TargetLine where
  lead : Lead
  iqn : Word
  flags : Span
  portals : List PortalLine

def DiskLine.text (d : DiskLine) : String :=
  "Attached scsi disk" ++ (" " ++ d.name.text ++ "\t\tState: " ++ d.state.text)

def DiskLine.lines (d : DiskLine) : List String := d.lead.lines d.text

def LunLine.text (l : LunLine) : String :=
  "scsi" ++ (l.host.text ++ " Channel " ++ l.channel.text ++ " Id " ++ l.id.text ++ " Lun: " ++
    itoa l.lun)

def LunLine.lines (l : LunLine) : List String :=
  l.lead.lines l.text ++ l.disk.toList.flatMap DiskLine.lines

def PortalLine.text (p : PortalLine) : String :=
  "Current Portal:" ++ (" " ++ p.address.text ++ "," ++ p.tpgt.text)

def PortalLine.lines (p : PortalLine) : List String :=
  p.lead.lines p.text ++ p.luns.flatMap LunLine.lines

def TargetLine.text (t : TargetLine) : String :=
  "Target:" ++ (" " ++ t.iqn.text ++ " (" ++ t.flags.text ++ ")")

def TargetLine.lines (t : TargetLine) : List String :=
  t.lead.lines t.text ++ t.portals.flatMap PortalLine.lines

/-- The table, with other lines after it. -/
def renderSessions (ts : List TargetLine) (after : List Noise) : String :=
  unlines (ts.flatMap TargetLine.lines ++ after.map (·.text))

def LunLine.device (l : LunLine) : String :=
  match l.disk with
  | none => ""
  | some d => "/dev/" ++ d.name.text

def LunLine.session (iqn portal : String) (l : LunLine) : Session := ⟨iqn, portal, l.lun, l.device⟩

def PortalLine.sessions (iqn : String) (p : PortalLine) : List Session :=
  p.luns.map (·.session iqn p.address.text)

def TargetLine.sessions (t : TargetLine) : List Session :=
  t.portals.flatMap (·.sessions t.iqn.text)

/-! ### One line -/

theorem step_noise (s : Parsing) (n : Noise) : s.step n.text = s := by
  have hp : ∀ p ∈ recognised, hasPrefix (trimSpace n.text) p = false := n.other
  simp only [recognised, List.forall_mem_cons] at hp
  unfold Parsing.step
  simp [hp.1, hp.2.1, hp.2.2.1, hp.2.2.2.1]

theorem toList_trimSpace_indented (i : Indent) {w : String} (hne : w.toList ≠ [])
    (hw : Trimmed isSpace w.toList) (rest : String) :
    (trimSpace (i.text ++ (w ++ rest))).toList =
      w.toList ++ rest.toList.rdropWhile isSpace := by
  rw [toList_trimSpace, String.toList_append, String.toList_append,
    trim_indented i.blank hne hw]

theorem fields_indented (i : Indent) (text : String) :
    fields (trimSpace (i.text ++ text)) = fields text := by
  rw [fields_trimSpace]
  unfold fields
  rw [String.toList_append, fieldList_indented i.blank]

theorem firstField_of_fieldList {t : String} {w : List Char} {rest : List (List Char)}
    (h : fieldList t.toList = w :: rest) : firstField t = String.ofList w := by
  unfold firstField fields
  rw [h]
  rfl

/-- A line that begins with one of the recognised texts does not begin with another. -/
theorem not_hasPrefix {line pre : String} {w rest : List Char} (h : line.toList = w ++ rest)
    (hpre : ∀ rest, pre.toList.isPrefixOf (w ++ rest) = false) : hasPrefix line pre = false := by
  unfold hasPrefix
  rw [h]
  exact hpre rest

theorem toList_append_four (a b c d : String) :
    (a ++ b ++ c ++ d).toList = a.toList ++ (b.toList ++ (c.toList ++ d.toList)) := by
  simp only [String.toList_append, List.append_assoc]

theorem step_target (s : Parsing) (i : Indent) (t : TargetLine) :
    s.step (i.text ++ t.text) = { s.flush with iqn := t.iqn.text, portal := "" } := by
  have hline : (trimSpace (i.text ++ t.text)).toList = "Target:".toList ++
      (" " ++ t.iqn.text ++ " (" ++ t.flags.text ++ ")").toList.rdropWhile isSpace :=
    toList_trimSpace_indented i (by decide) (trimmed_of_all (by decide) (by decide)) _
  have hrest : (" " ++ t.iqn.text ++ " (" ++ t.flags.text ++ ")").toList =
      ' ' :: (t.iqn.text.toList ++ ' ' :: ('(' :: t.flags.text.toList ++ [')'])) := by
    rw [String.toList_append, toList_append_four]
    simp only [List.append_assoc]
    rfl
  have hfirst : firstField (trimPrefix (trimSpace (i.text ++ t.text)) "Target:") = t.iqn.text := by
    have hfields := fieldList_cons t.iqn.ne t.iqn.solid (b := ' ') rfl
      ('(' :: t.flags.text.toList ++ [')'])
    rw [firstField_of_fieldList (w := t.iqn.text.toList), String.ofList_toList]
    rw [toList_trimPrefix hline, fieldList_rdropWhile, hrest, fieldList_blank rfl, hfields]
  have hpre : hasPrefix (trimSpace (i.text ++ t.text)) "Target:" = true :=
    hasPrefix_of_toList hline
  unfold Parsing.step
  simp only [hpre, if_true, hfirst]

theorem step_portal (s : Parsing) (i : Indent) (p : PortalLine) :
    s.step (i.text ++ p.text) = { s.flush with portal := p.address.text } := by
  have hline : (trimSpace (i.text ++ p.text)).toList = "Current Portal:".toList ++
      (" " ++ p.address.text ++ "," ++ p.tpgt.text).toList.rdropWhile isSpace :=
    toList_trimSpace_indented i (by decide) (trimmed_of_all (by decide) (by decide)) _
  have hrest : (" " ++ p.address.text ++ "," ++ p.tpgt.text).toList =
      ' ' :: (p.address.text.toList ++ ',' :: p.tpgt.text.toList) :=
    toList_append_four _ _ _ _
  have hword : fieldList (p.address.text.toList ++ ',' :: p.tpgt.text.toList) =
      [p.address.text.toList ++ ',' :: p.tpgt.text.toList] := by
    apply fieldList_word (by simp)
    intro c hc
    simp only [List.mem_append, List.mem_cons] at hc
    rcases hc with hc | rfl | hc
    · exact p.address.solid c hc
    · rfl
    · exact p.tpgt.solid c hc
  have hfirst : stripTPGT (firstField
      (trimPrefix (trimSpace (i.text ++ p.text)) "Current Portal:")) = p.address.text := by
    rw [firstField_of_fieldList (w := p.address.text.toList ++ ',' :: p.tpgt.text.toList)]
    · have hne : ∀ c ∈ p.address.text.toList, decide (c ≠ ',') = true := by
        intro c hc
        have : c ≠ ',' := by
          rintro rfl
          exact p.address.comma hc
        simpa using this
      unfold stripTPGT
      rw [String.toList_ofList, List.takeWhile_append_of_pos hne]
      simp
    · rw [toList_trimPrefix hline, fieldList_rdropWhile, hrest, fieldList_blank rfl, hword]
  have hpre : hasPrefix (trimSpace (i.text ++ p.text)) "Current Portal:" = true :=
    hasPrefix_of_toList hline
  have hno : hasPrefix (trimSpace (i.text ++ p.text)) "Target:" = false :=
    not_hasPrefix hline fun _ => rfl
  unfold Parsing.step
  simp only [hpre, hno, if_true, hfirst]
  rfl

theorem Numeral.ne_of_letter (n : Numeral) {w : String} {c : Char} (hc : c ∈ w.toList)
    (hd : c.isDigit = false) : n.text ≠ w := by
  intro h
  rw [n.digit c (h ▸ hc)] at hd
  cases hd

/-- The beginning of a LUN line, up to the name of the number. -/
def LunLine.front (l : LunLine) : String :=
  "scsi" ++ (l.host.text ++ " Channel " ++ l.channel.text ++ " Id " ++ l.id.text ++ " Lun:")

theorem LunLine.text_eq (l : LunLine) : l.text = l.front ++ (" " ++ itoa l.lun) := by
  apply String.toList_injective
  simp only [LunLine.text, LunLine.front, String.toList_append, List.append_assoc]
  rfl

theorem LunLine.fields_text (l : LunLine) : fields l.text = ["scsi" ++ l.host.text, "Channel",
    l.channel.text, "Id", l.id.text, "Lun:", itoa l.lun] := by
  have htext : l.text.toList = ("scsi".toList ++ l.host.text.toList) ++ ' ' :: ("Channel".toList ++
      ' ' :: (l.channel.text.toList ++ ' ' :: ("Id".toList ++ ' ' :: (l.id.text.toList ++
        ' ' :: ("Lun:".toList ++ ' ' :: (itoa l.lun).toList))))) := by
    simp only [LunLine.text, String.toList_append, List.append_assoc]
    rfl
  have hhost : Solid ("scsi".toList ++ l.host.text.toList) := by
    intro c hc
    have hscsi : Solid "scsi".toList := solid_of_all (by decide)
    rcases List.mem_append.1 hc with hc | hc
    · exact hscsi c hc
    · exact l.host.solid c hc
  have hitoa : (itoa l.lun).toList ≠ [] := by
    intro hnil
    have hback := decimal_itoa l.lun
    rw [show itoa l.lun = "" from String.toList_injective hnil] at hback
    cases hback
  unfold fields
  rw [htext, fieldList_cons (by simp) hhost rfl,
    fieldList_cons (w := "Channel".toList) (by decide) (solid_of_all (by decide)) rfl,
    fieldList_cons l.channel.ne l.channel.solid rfl,
    fieldList_cons (w := "Id".toList) (by decide) (solid_of_all (by decide)) rfl,
    fieldList_cons l.id.ne l.id.solid rfl,
    fieldList_cons (w := "Lun:".toList) (by decide) (solid_of_all (by decide)) rfl,
    fieldList_word hitoa (solid_itoa _), ← String.toList_append]
  simp only [List.map_cons, List.map_nil, String.ofList_toList]

theorem LunLine.lunIn_fields (l : LunLine) : lunIn (fields l.text) = some l.lun := by
  have hhost : "scsi" ++ l.host.text ≠ "Lun:" := by
    intro h
    have hhead := congrArg (fun s => s.toList.head?) h
    simp [String.toList_append] at hhead
  have hchannel := l.channel.ne_of_letter (w := "Lun:") (c := 'L') (by decide) (by decide)
  have hid := l.id.ne_of_letter (w := "Lun:") (c := 'L') (by decide) (by decide)
  rw [l.fields_text]
  simp only [lunIn, hhost, hchannel, hid, if_false]
  exact (atoi_itoa l.lun).trans (if_pos l.fits)

variable {s : Parsing}

theorem step_lun (hs : s.iqn ≠ "") (i : Indent) (l : LunLine) : s.step (i.text ++ l.text) =
      { s.flush with pend := some ⟨s.iqn, s.portal, l.lun, ""⟩ } := by
  have hfront : l.front.toList = "scsi".toList ++ (l.host.text ++ " Channel " ++ l.channel.text ++
      " Id " ++ l.id.text ++ " Lun:").toList := by
    rw [LunLine.front, String.toList_append]
  have hend : l.front.toList = "scsi".toList ++ ((l.host.text ++ " Channel " ++ l.channel.text ++
      " Id " ++ l.id.text ++ " ").toList ++ "Lun:".toList) := by
    simp only [LunLine.front, String.toList_append, List.append_assoc]
    rfl
  have htrim : Trimmed isSpace l.front.toList := by
    rw [hend]
    exact (solid_of_all (by decide)).trimmed_between (solid_of_all (by decide)) (by decide)
      (by decide) _
  have hline := toList_trimSpace_indented i (w := l.front) (by rw [hfront]; simp) htrim
    (" " ++ itoa l.lun)
  rw [← l.text_eq] at hline
  have hline' := hline
  rw [hfront, List.append_assoc] at hline'
  have hpre := hasPrefix_of_toList hline'
  have hno1 : hasPrefix (trimSpace (i.text ++ l.text)) "Target:" = false :=
    not_hasPrefix hline' fun _ => rfl
  have hno2 : hasPrefix (trimSpace (i.text ++ l.text)) "Current Portal:" = false :=
    not_hasPrefix hline' fun _ => rfl
  have hcontains : contains (trimSpace (i.text ++ l.text)) "Lun:" = true := by
    rw [hend, ← List.append_assoc, List.append_assoc] at hline
    exact contains_of_toList hline
  have hlun : lunOf (trimSpace (i.text ++ l.text)) = some l.lun := by
    unfold lunOf
    rw [fields_indented, l.lunIn_fields]
  unfold Parsing.step
  simp only [hpre, hno1, hno2, hcontains, hlun]
  simp [hs]

theorem DiskLine.fields_text (d : DiskLine) : ∃ rest,
    fields d.text = "Attached" :: "scsi" :: "disk" :: d.name.text :: rest := by
  have htext : d.text.toList = "Attached".toList ++ ' ' :: ("scsi".toList ++ ' ' :: ("disk".toList ++
      ' ' :: (d.name.text.toList ++ '\t' :: ("\tState: ".toList ++ d.state.text.toList)))) := by
    have hfirst : "Attached scsi disk".toList =
        "Attached".toList ++ ' ' :: ("scsi".toList ++ ' ' :: "disk".toList) := by decide
    have hlast : "\t\tState: ".toList = '\t' :: "\tState: ".toList := by decide
    have hparts : d.text.toList = "Attached scsi disk".toList ++ (" ".toList ++
        (d.name.text.toList ++ ("\t\tState: ".toList ++ d.state.text.toList))) :=
      String.toList_append.trans (congrArg _ (toList_append_four _ _ _ _))
    rw [hparts, hfirst, hlast, List.append_assoc, List.cons_append, List.append_assoc,
      List.cons_append]
    rfl
  refine ⟨(fieldList ("\tState: ".toList ++ d.state.text.toList)).map String.ofList, ?_⟩
  unfold fields
  rw [htext, fieldList_cons (w := "Attached".toList) (by decide) (solid_of_all (by decide)) rfl,
    fieldList_cons (w := "scsi".toList) (by decide) (solid_of_all (by decide)) rfl,
    fieldList_cons (w := "disk".toList) (by decide) (solid_of_all (by decide)) rfl,
    fieldList_cons d.name.ne d.name.solid rfl]
  simp only [List.map_cons, String.ofList_toList]

theorem step_disk {p : Session} (hs : s.pend = some p) (i : Indent) (d : DiskLine) :
    s.step (i.text ++ d.text) =
      { s with pend := some { p with device := "/dev/" ++ d.name.text } } := by
  have hline : (trimSpace (i.text ++ d.text)).toList = "Attached scsi disk".toList ++
      (" " ++ d.name.text ++ "\t\tState: " ++ d.state.text).toList.rdropWhile isSpace :=
    toList_trimSpace_indented i (by decide) (trimmed_of_all (by decide) (by decide)) _
  have hpre : hasPrefix (trimSpace (i.text ++ d.text)) "Attached scsi disk" = true :=
    hasPrefix_of_toList hline
  have hno1 : hasPrefix (trimSpace (i.text ++ d.text)) "Target:" = false :=
    not_hasPrefix hline fun _ => rfl
  have hno2 : hasPrefix (trimSpace (i.text ++ d.text)) "Current Portal:" = false :=
    not_hasPrefix hline fun _ => rfl
  have hno3 : hasPrefix (trimSpace (i.text ++ d.text)) "scsi" = false :=
    not_hasPrefix hline fun _ => rfl
  have hdisk : attachedDisk (trimSpace (i.text ++ d.text)) = d.name.text := by
    obtain ⟨rest, hfields⟩ := d.fields_text
    unfold attachedDisk
    rw [fields_indented, hfields]
    rfl
  have hne : d.name.text ≠ "" := by
    intro hnil
    exact d.name.ne (congrArg String.toList hnil)
  unfold Parsing.step
  simp only [hpre, hno1, hno2, hno3, hs]
  simp [Session.withDisk, hdisk, hne]

/-! ### All lines -/

theorem foldl_noise (s : Parsing) (ns : List Noise) :
    (ns.map fun n => n.text).foldl Parsing.step s = s := by
  induction ns with
  | nil => rfl
  | cons n ns ih => rw [List.map_cons, List.foldl_cons, step_noise, ih]

theorem foldl_lead (s : Parsing) (l : Lead) (text : String) :
    (l.lines text).foldl Parsing.step s = s.step (l.indent.text ++ text) := by
  rw [Lead.lines, List.foldl_append, foldl_noise, List.foldl_cons, List.foldl_nil]

theorem foldl_lun (hs : s.iqn ≠ "") (l : LunLine) : l.lines.foldl Parsing.step s =
      { s.flush with pend := some (l.session s.iqn s.portal) } := by
  rw [LunLine.lines, List.foldl_append, foldl_lead, step_lun hs]
  unfold LunLine.session LunLine.device
  cases l.disk with
  | none => rfl
  | some d =>
    rw [Option.toList_some, List.flatMap_singleton, DiskLine.lines, foldl_lead, step_disk rfl]

theorem foldl_luns (hs : s.iqn ≠ "") (ls : List LunLine) :
    ((ls.flatMap LunLine.lines).foldl Parsing.step s).iqn = s.iqn ∧
      ((ls.flatMap LunLine.lines).foldl Parsing.step s).flush.out =
        s.flush.out ++ ls.map (·.session s.iqn s.portal) := by
  induction ls generalizing s with
  | nil => exact ⟨rfl, (List.append_nil _).symm⟩
  | cons l ls ih =>
    rw [List.flatMap_cons, List.foldl_append, foldl_lun hs]
    obtain ⟨hiqn, hout⟩ := ih (s := { s.flush with pend := some (l.session s.iqn s.portal) }) hs
    refine ⟨hiqn, hout.trans ?_⟩
    rw [List.map_cons, List.append_cons]
    rfl

theorem foldl_portals (hs : s.iqn ≠ "") (ps : List PortalLine) :
    ((ps.flatMap PortalLine.lines).foldl Parsing.step s).flush.out =
      s.flush.out ++ ps.flatMap (·.sessions s.iqn) := by
  induction ps generalizing s with
  | nil => exact (List.append_nil _).symm
  | cons p ps ih =>
    rw [List.flatMap_cons, List.foldl_append, PortalLine.lines, List.foldl_append, foldl_lead,
      step_portal]
    obtain ⟨hiqn, hout⟩ := foldl_luns (s := { s.flush with portal := p.address.text }) hs p.luns
    rw [ih (hiqn ▸ hs), hiqn, hout, List.flatMap_cons, ← List.append_assoc]
    congr 2
    exact List.append_nil _

theorem foldl_targets (s : Parsing) (ts : List TargetLine) :
    ((ts.flatMap TargetLine.lines).foldl Parsing.step s).flush.out =
      s.flush.out ++ ts.flatMap TargetLine.sessions := by
  induction ts generalizing s with
  | nil => exact (List.append_nil _).symm
  | cons t ts ih =>
    have hiqn : t.iqn.text ≠ "" := fun hnil => t.iqn.ne (congrArg String.toList hnil)
    rw [List.flatMap_cons, List.foldl_append, TargetLine.lines, List.foldl_append, foldl_lead,
      step_target, ih, foldl_portals (s := { s.flush with iqn := t.iqn.text, portal := "" }) hiqn,
      List.flatMap_cons, ← List.append_assoc]
    congr 2
    exact List.append_nil _

/-! ### The text -/

theorem oneLine_append {a b : String} (ha : '\n' ∉ a.toList) (hb : '\n' ∉ b.toList) :
    '\n' ∉ (a ++ b).toList := by
  rw [String.toList_append, List.mem_append]
  rintro (h | h)
  · exact ha h
  · exact hb h

theorem oneLine_lead (l : Lead) {text : String} (h : '\n' ∉ text.toList) :
    ∀ x ∈ l.lines text, '\n' ∉ x.toList := by
  intro x hx
  rcases mem_snoc.1 hx with hx | rfl
  · obtain ⟨n, -, rfl⟩ := List.mem_map.1 hx
    exact n.line
  · exact oneLine_append l.indent.line h

theorem TargetLine.oneLine (t : TargetLine) : '\n' ∉ t.text.toList :=
  oneLine_append (by decide) (oneLine_append (oneLine_append (oneLine_append
    (oneLine_append (by decide) t.iqn.solid.oneLine) (by decide)) t.flags.line) (by decide))

theorem PortalLine.oneLine (p : PortalLine) : '\n' ∉ p.text.toList :=
  oneLine_append (by decide) (oneLine_append (oneLine_append
    (oneLine_append (by decide) p.address.solid.oneLine) (by decide)) p.tpgt.solid.oneLine)

theorem LunLine.oneLine (l : LunLine) : '\n' ∉ l.text.toList := by
  have hitoa := solid_itoa l.lun
  exact oneLine_append (by decide) (oneLine_append (oneLine_append (oneLine_append (oneLine_append
    (oneLine_append (oneLine_append l.host.solid.oneLine (by decide)) l.channel.solid.oneLine) (by decide))
    l.id.solid.oneLine) (by decide)) hitoa.oneLine)

theorem DiskLine.oneLine (d : DiskLine) : '\n' ∉ d.text.toList :=
  oneLine_append (by decide) (oneLine_append (oneLine_append
    (oneLine_append (by decide) d.name.solid.oneLine) (by decide)) d.state.line)

theorem oneLine_target (t : TargetLine) : ∀ x ∈ t.lines, '\n' ∉ x.toList := by
  intro x hx
  rcases List.mem_append.1 hx with hx | hx
  · exact oneLine_lead _ t.oneLine x hx
  · obtain ⟨p, -, hx⟩ := List.mem_flatMap.1 hx
    rcases List.mem_append.1 hx with hx | hx
    · exact oneLine_lead _ p.oneLine x hx
    · obtain ⟨l, -, hx⟩ := List.mem_flatMap.1 hx
      rcases List.mem_append.1 hx with hx | hx
      · exact oneLine_lead _ l.oneLine x hx
      · obtain ⟨d, -, hx⟩ := List.mem_flatMap.1 hx
        exact oneLine_lead _ d.oneLine x hx

/-- The sessions of a table that is written in the layout, with any indentation and any other lines,
are read back: one for each LUN line, in their order. -/
theorem parseSessions_render (ts : List TargetLine) (after : List Noise) :
    parseSessions (renderSessions ts after) = ts.flatMap TargetLine.sessions := by
  have hlines : ∀ x ∈ ts.flatMap TargetLine.lines ++ after.map (fun n => n.text),
      '\n' ∉ x.toList := by
    intro x hx
    rcases List.mem_append.1 hx with hx | hx
    · obtain ⟨t, -, hx⟩ := List.mem_flatMap.1 hx
      exact oneLine_target t x hx
    · obtain ⟨n, -, rfl⟩ := List.mem_map.1 hx
      exact n.line
  have hblank : ∀ s : Parsing, s.step "" = s := fun _ => rfl
  unfold parseSessions renderSessions
  rw [split_unlines hlines, List.foldl_append, List.foldl_append, foldl_noise]
  simp only [List.foldl_cons, List.foldl_nil, hblank]
  rw [foldl_targets]
  rfl

/-- A target with one portal, one LUN and its disk, and another line before the LUN's. -/
def oneTarget : TargetLine :=
  let lead : Lead := ⟨[], ⟨"", by simp, by simp⟩⟩
  let zero : Numeral :=
    ⟨⟨"0", by decide, solid_of_all (by decide)⟩, List.all_eq_true.1 (by decide)⟩
  let noise : Noise := ⟨⟨"  Attached SCSI devices:", by decide⟩, by decide⟩
  let disk : DiskLine := ⟨lead, ⟨"sdc", by decide, solid_of_all (by decide)⟩, ⟨"running", by decide⟩⟩
  ⟨lead, ⟨"iqn.a", by decide, solid_of_all (by decide)⟩, ⟨"non-flash", by decide⟩,
    [⟨lead, ⟨"10.0.0.1:3260", solid_of_all (by decide), by decide⟩, zero,
      [⟨⟨[noise], lead.indent⟩, zero, zero, zero, 3, by decide, some disk⟩]⟩]⟩

theorem parseSessions_render_one : parseSessions (renderSessions [oneTarget] []) =
    [⟨"iqn.a", "10.0.0.1:3260", 3, "/dev/sdc"⟩] :=
  parseSessions_render [oneTarget] []

end NomadCsi.Node
