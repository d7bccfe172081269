import TorusEngine.Numeral.Style
import TorusEngine.Paging.FreeingService

/-!
# Simulation reports
-/

namespace TorusEngine.Simulation

structure Report where
  frames : Nat := 0
  swaps : Nat := 0
  rebuilds : Nat := 0
  ticks : Nat := 0
  lastVisible : Nat := 0
  maxVisible : Nat := 0
  relevant : Nat := 0
  pagesUploaded : Nat := 0
  pagesFailed : Nat := 0
  pagesInUse : Nat := 0
  batches : Nat := 0
  indices : Nat := 0
  framesPerSecond : Float := 0

def Report.render (report : Report) : String :=
  let fps := Numeral.Style.renderRounded report.framesPerSecond
  "\n".intercalate [
    s!"frames: {report.frames} ({report.swaps} swaps, {report.rebuilds} rebuilds, {fps} fps)",
    s!"gameplay ticks: {report.ticks}",
    s!"visible: last={report.lastVisible} max={report.maxVisible} (relevant={report.relevant})",
    s!"pages: in_use={report.pagesInUse} uploaded={report.pagesUploaded} failed={report.pagesFailed}",
    s!"deferred frees: {report.batches} batches, {report.indices} indices"]

end TorusEngine.Simulation
