import RmfTraffic.Trajectory
import RmfTraffic.Spline
import RmfTraffic.Geometry
import RmfTraffic.Broadphase
import RmfTraffic.BoundingSoundness
import RmfTraffic.Invasion
import RmfTraffic.Approach
import RmfTraffic.Between
import RmfTraffic.Windows
import RmfTraffic.SweptCircle
import RmfTraffic.Discs
import RmfTraffic.NullShapes
import RmfTraffic.Ordering
import RmfTraffic.HandOff
import RmfTraffic.Shift
import RmfTraffic.Region
import RmfTraffic.Slice
import RmfTraffic.Sites
import RmfTraffic.Span
import RmfTraffic.ListMode
import RmfTraffic.Swap
