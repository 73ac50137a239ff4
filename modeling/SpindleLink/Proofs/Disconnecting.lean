import SpindleLink.Station
import SpindleLink.Proofs.PortCalls

/-! Disconnecting, step by step: whatever fails on the way, things are held as behind the release of
the line, and the channel has no port. Only the closing of the port decides whether the station is
disconnected. -/

namespace SpindleLink
namespace Station

def leave (link : Link) : Act (Bench Float) Unit := do
  link.drive.line.release
  link.drive.line.direction.close

theorem jams_leave (link : Link) (c : SerialChannel) (b : Bench Float) :
    c.jams (leave link b).2 = c.jams b := by
  have hleave : (leave link).Leaves Bench.portState :=
    .bind link.drive.line.release_portState fun _ => link.drive.line.direction.close_portState
  have hstate := hleave b
  simp only [Bench.portState, Prod.mk.injEq] at hstate
  obtain ⟨hports, hplan, -, -⟩ := hstate
  rw [SerialChannel.jams, hports, hplan, SerialChannel.jams]

theorem disconnect_of_link {st : Station} {link : Link} (h : st.link = some link) :
    (disconnect st).2 = ⟨(link.channel.close (leave link st.bench).2).2,
      if link.channel.jams st.bench then some link else none⟩ := by
  have hleft : (onBench (leave link) st).2 = ⟨(leave link st.bench).2, some link⟩ := by
    simp [onBench, Act.within, h]
  have hdisconnect : (disconnect st).2 = ((onBench (leave link)).ensuring (do
      onBench link.channel.close
      setLink none) st).2 := by
    rw [disconnect, Act.bind_ok (Act.observe_apply _ st), h]
    exact Act.Leaves.behind (g := id) (fun _ => .pure _) st
  rw [hdisconnect, Act.ensuring_snd, hleft, ← jams_leave link]
  have hresult := link.channel.close_ok_iff (leave link st.bench).2
  rcases hclose : link.channel.close (leave link st.bench).2 with ⟨f | u, b⟩
  · have hjams : link.channel.jams (leave link st.bench).2 = true := by
      simpa [hclose] using hresult
    have hbench : onBench link.channel.close ⟨(leave link st.bench).2, some link⟩ =
        (.error f, ⟨b, some link⟩) := by
      simp [onBench, Act.within, hclose]
    rw [Act.bind_error hbench, hjams]
    rfl
  · have hjams : link.channel.jams (leave link st.bench).2 = false := by
      simpa [hclose] using hresult
    have hbench : onBench link.channel.close ⟨(leave link st.bench).2, some link⟩ =
        (.ok (), ⟨b, some link⟩) := by
      simp [onBench, Act.within, hclose]
    rw [Act.bind_ok hbench, hjams]
    rfl

/-- Behind a disconnecting things are held as behind the release of the line. -/
theorem holdings_disconnect {st : Station} {link : Link} (h : st.link = some link) :
    (disconnect st).2.bench.holdings = (link.drive.line.release st.bench).2.holdings := by
  rw [disconnect_of_link h]
  exact (link.channel.close_holdings _).trans
    (Act.Leaves.behind (fun _ => link.drive.line.direction.close_holdings) st.bench)

theorem connected_disconnect {st : Station} {link : Link} (h : st.link = some link) :
    link.channel.connected (disconnect st).2.bench = false := by
  rw [disconnect_of_link h]
  exact SerialChannel.connected_eq_false (link.channel.port_close _)

end Station
end SpindleLink
