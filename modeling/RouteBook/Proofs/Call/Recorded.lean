import RouteBook.Client.Call
import RouteBook.Proofs.Request.OutboundParts

/-!
# Recorded requests

What the other side sees of a call. A recorded request is on the wire what was prepared from the checked
message, with a body of its own or with the octets of a file (`Site.Makes`). This holds for every
implementation of a route, since all that send do so through the site (`Call.makes_of_mem_requests`).
-/

namespace RouteBook

variable {site : Site} {auth : Option Auth} {policy : ErrorPolicy} {route : Route} {b : Behaviour}
  {c : Completion Result} {w : WireRequest}

/-! ## Sending -/

theorem Wire.ofOutbound_body {o : Outbound} {before : List UInt8}
    (h : ofOutbound o before = .ok w) (octets : List UInt8) :
    ofOutbound o octets = .ok { w with body := octets } := by
  obtain ⟨timeout, htimeout, h⟩ := bind_eq_ok_iff.mp h
  obtain ⟨text, htext, h⟩ := bind_eq_ok_iff.mp h
  obtain ⟨address, haddress, h⟩ := bind_eq_ok_iff.mp h
  obtain ⟨headers, hheaders, h⟩ := bind_eq_ok_iff.mp h
  obtain rfl := Except.ok.inj h
  refine bind_eq_ok_iff.mpr ⟨timeout, htimeout, bind_eq_ok_iff.mpr ⟨text, htext, ?_⟩⟩
  exact bind_eq_ok_iff.mpr ⟨address, haddress, bind_eq_ok_iff.mpr ⟨headers, hheaders, rfl⟩⟩

namespace Site

/-- The requests that a message makes: with a body of its own, or with a file for the body. -/
inductive Makes (site : Site) (auth : Option Auth) (route : Route) (message : Message)
    (w : WireRequest) : Prop
  | ownBody {o : Outbound} {lines : List LogLine} (noFile : route.hasFileBody = false)
      (prepared : Outbound.prepare site.config site.env site.constants route auth message =
        .ok (o, lines))
      (wire : Wire.ofOutbound o o.body = .ok w)
  | fileBody {o : Outbound} {lines : List LogLine} {path : AnyText} {place name : String} {size : Nat}
      {octets : List UInt8} (file : route.hasFileBody = true)
      (prepared : Outbound.prepare site.config site.env site.constants route auth message =
        .ok (o, lines))
      (named : message.value "filePath" = path.toValue) (placed : path.systemName? = some place)
      (sized : site.files.size (Files.tidy place) = .ok size)
      (read : site.files.read place = .ok octets)
      (wire : Wire.ofOutbound (withFileHeaders o size name) octets = .ok w)

theorem of_mem_exchange {o : Outbound} {sent : WireRequest} (h : w ∈ (exchange o sent b c).requests) :
    w = sent := by
  cases b <;> exact List.mem_singleton.mp h

theorem of_mem_perform {o : Outbound} {path : Option FilePath}
    (h : w ∈ (site.perform o path b c).requests) :
    ∃ octets, site.bodyOctets o path = .ok octets ∧ Wire.ofOutbound o octets = .ok w := by
  unfold perform at h
  cases hlines : requestLines o with
  | error f => rw [hlines] at h; exact nomatch h
  | ok lines =>
    cases hwire : Wire.ofOutbound o [] with
    | error f => rw [hlines, hwire] at h; exact nomatch h
    | ok empty =>
      cases hbody : site.bodyOctets o path with
      | error failure => rw [hlines, hwire, hbody] at h; exact nomatch h
      | ok octets =>
        rw [hlines, hwire, hbody] at h
        obtain rfl := of_mem_exchange (c := c) h
        exact ⟨octets, rfl, Wire.ofOutbound_body hwire octets⟩

theorem read_of_bodyOctets {o : Outbound} {path : FilePath} {octets : List UInt8}
    (h : site.bodyOctets o (some path) = .ok octets) : site.files.read path.name = .ok octets := by
  change (site.files.read path.name).mapError (path.face, ·) = _ at h
  cases hread : site.files.read path.name with
  | error e => rw [hread] at h; exact nomatch h
  | ok content => rw [hread] at h; exact congrArg Except.ok (Except.ok.inj h)

theorem filePath?_eq_some {o : Outbound} {path : FilePath} (h : filePath? o = .ok (some path)) :
    ∃ text : AnyText, o.filePath = text.toValue ∧ text.systemName? = some path.name := by
  unfold filePath? at h
  split at h
  case isFalse => exact nomatch h
  case isTrue =>
    split at h
    case _ => exact nomatch h
    case _ text htext =>
      split at h
      case _ => exact nomatch h
      case _ name hname =>
        split at h
        · exact nomatch h
        · obtain rfl := Option.some.inj (Except.ok.inj h)
          exact ⟨text, AnyText.ofValue?_eq_some_iff.mp htext, hname⟩

theorem of_mem_sendFile {message : Message} {o : Outbound}
    (h : w ∈ (site.sendFile message o b c).requests) :
    ∃ (path : AnyText) (place : String) (size : Nat) (name : String) (octets : List UInt8),
      o.filePath = path.toValue ∧ path.systemName? = some place ∧
      site.files.size (Files.tidy place) = .ok size ∧ site.files.read place = .ok octets ∧
      Wire.ofOutbound (withFileHeaders o size name) octets = .ok w := by
  unfold sendFile at h
  cases hpath : filePath? o with
  | error f => rw [hpath] at h; exact nomatch h
  | ok path? =>
    rw [hpath] at h
    cases path? with
    | none => exact nomatch h
    | some path =>
      dsimp only at h
      cases hsize : site.files.size (Files.tidy path.name) with
      | error e => rw [hsize] at h; exact nomatch h
      | ok size =>
        rw [hsize] at h
        dsimp only at h
        cases hname : fileName message path.face with
        | error f => rw [hname] at h; exact nomatch h
        | ok name =>
          rw [hname] at h
          obtain ⟨octets, hbody, hwire⟩ := of_mem_perform h
          obtain ⟨text, htext, hplace⟩ := filePath?_eq_some hpath
          exact ⟨text, path.name, size, name, octets, htext, hplace, hsize, read_of_bodyOctets hbody,
            hwire⟩

/-- A request that is sent for a message is one that the message makes. -/
theorem makes_of_mem_requests {message : Value}
    (h : w ∈ (site.sendValue auth route message b c).requests) :
    ∃ es, message.entries = .ok es ∧ site.Makes auth route es w := by
  unfold sendValue at h
  cases hes : message.entries with
  | error f => rw [hes] at h; exact nomatch h
  | ok es =>
    refine ⟨es, rfl, ?_⟩
    rw [hes] at h
    dsimp only at h
    unfold send at h
    cases ha : Outbound.assembled site.config site.constants route es with
    | error f => rw [ha] at h; exact nomatch h
    | ok a =>
      rw [ha] at h
      dsimp only at h
      cases ho : Outbound.ofAssembly site.config site.env site.constants route auth es
          (route.format site.constants) a with
      | error f => rw [ho] at h; exact nomatch h
      | ok o =>
        rw [ho] at h
        have hprepared := Outbound.prepare_eq_ok_iff.mpr ⟨a, ha, ho, rfl⟩
        cases hfile : route.hasFileBody with
        | false =>
          rw [hfile] at h
          have hsent : w ∈ (site.perform o none b c).requests := h
          obtain ⟨octets, hbody, hwire⟩ := of_mem_perform hsent
          obtain rfl : o.body = octets := Except.ok.inj hbody
          exact .ownBody hfile hprepared hwire
        | true =>
          rw [hfile] at h
          have hsent : w ∈ (site.sendFile es o b c).requests := h
          obtain ⟨path, place, size, name, octets, hpath, hplace, hsize, hread, hwire⟩ :=
            of_mem_sendFile hsent
          obtain ⟨p, -, rfl⟩ := Outbound.ofAssembly_eq_ok_iff.mp ho
          have hnamed : es.value "filePath" = path.toValue := by
            rw [← hpath]
            show _ = if route.hasFileBody then es.value "filePath" else .null
            rw [if_pos hfile]
          exact .fileBody hfile hprepared hnamed hplace hsize hread hwire

end Site

/-! ## Implementations -/

namespace Implementation

theorem handOn_requests (inner : Completion Result) : (handOn policy route inner c).requests = [] := by
  unfold handOn
  split
  · rfl
  · split
    · rfl
    · split <;> rfl
  · rfl

theorem forwardDocument_requests (message : Value) :
    (forwardDocument site policy auth route message b c).requests =
      (site.sendValue auth route message b { withCallback := false }).requests := by
  unfold forwardDocument
  dsimp only
  split
  · rfl
  · show _ ++ (handOn policy route _ c).requests = _
    rw [handOn_requests, List.append_nil]

theorem makes_of_mem_requests {impl : Implementation} {message : Value}
    (h : w ∈ (impl.run site policy auth route message b c).requests) :
    ∃ es, message.entries = .ok es ∧ site.Makes auth route es w := by
  cases impl with
  | forward => exact Site.makes_of_mem_requests h
  | documentForward =>
    have hsent : w ∈ (forwardDocument site policy auth route message b c).requests := h
    rw [forwardDocument_requests] at hsent
    exact Site.makes_of_mem_requests hsent
  | echo => exact nomatch h
  | never => exact nomatch h
  | twice => exact nomatch h

end Implementation

namespace Call

theorem requests_of_refused {e : Endpoint Implementation} {message : Value}
    (h : (checked e.route message).2 ≠ .ok ()) :
    (dispatch site policy auth e message b c).requests = [] := by
  unfold dispatch
  rcases hc : checked e.route message with ⟨after, check⟩
  rw [hc] at h
  cases check with
  | ok u => exact absurd rfl h
  | error err => cases err <;> rfl

/-- A recorded request is one that the checked message makes. -/
theorem makes_of_mem_requests {e : Endpoint Implementation} {message : Value}
    (h : w ∈ (dispatch site policy auth e message b c).requests) :
    ∃ es, (checked e.route message).1.entries = .ok es ∧ site.Makes auth e.route es w := by
  by_cases hok : (checked e.route message).2 = .ok ()
  · unfold dispatch at h
    rcases hc : checked e.route message with ⟨after, check⟩
    rw [hc] at hok h
    obtain rfl : check = .ok () := hok
    exact Implementation.makes_of_mem_requests h
  · rw [requests_of_refused hok] at h
    exact nomatch h

end Call

end RouteBook
