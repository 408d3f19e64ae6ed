import Coupling.Text.Numeral

/-!
# CF names

Long names and units of coupled fields, and the table that is written of them:

* `CfName.lookup?` knows the usual fields by their name without component and category;
* a `CfTable` holds one row for each key, in the order in which keys were first seen. A key that
  is there already keeps its row, so `CfTable.insert` never changes an earlier row.
-/

namespace Coupling

/-- A long name and a unit. -/
structure CfName where
  longName : String
  unit : String
  deriving DecidableEq, Repr

namespace CfName

/-- The word for a name or unit that nobody knows. -/
def unknownWord : String := "unknown"

def unknown : CfName := ⟨unknownWord, unknownWord⟩

/-- Whether neither the name nor the unit is known. -/
def isUnknown (n : CfName) : Bool := n.longName = unknownWord ∧ n.unit = unknownWord

def usual : List (String × CfName) :=
  [("SST", ⟨"sea_surface_temperature", "K"⟩),
   ("ICE", ⟨"sea_ice_area_fraction", "1"⟩),
   ("ICEFRC", ⟨"sea_ice_area_fraction", "1"⟩),
   ("ICETHICK", ⟨"sea_ice_thickness", "m"⟩),
   ("SNOWTHICK", ⟨"surface_snow_thickness", "m"⟩),
   ("ICETEMP", ⟨"sea_ice_surface_temperature", "K"⟩),
   ("ICECOND", ⟨"sea_ice_thermal_conductivity", "W m-1 K-1"⟩),
   ("PONDFRC", ⟨"melt_pond_area_fraction", "1"⟩),
   ("PONDDEP", ⟨"melt_pond_depth", "m"⟩),
   ("UCURR", ⟨"eastward_sea_water_velocity", "m s-1"⟩),
   ("VCURR", ⟨"northward_sea_water_velocity", "m s-1"⟩),
   ("CO2FLX", ⟨"surface_upward_mass_flux_of_carbon_dioxide", "kg m-2 s-1"⟩),
   ("DMS", ⟨"surface_upward_mass_flux_of_dimethyl_sulfide", "kg m-2 s-1"⟩),
   ("CHL", ⟨"mass_concentration_of_chlorophyll_in_sea_water", "kg m-3"⟩),
   ("HEATFLX", ⟨"surface_downward_heat_flux_in_sea_water", "W m-2"⟩),
   ("SOLAR", ⟨"surface_net_downward_shortwave_flux", "W m-2"⟩),
   ("NONSOLAR", ⟨"surface_net_downward_non_solar_flux", "W m-2"⟩),
   ("RUNOFF", ⟨"water_flux_into_sea_water_from_rivers", "kg m-2 s-1"⟩),
   ("TRAIN", ⟨"rainfall_flux", "kg m-2 s-1"⟩),
   ("TSNOW", ⟨"snowfall_flux", "kg m-2 s-1"⟩),
   ("EVAP", ⟨"water_evaporation_flux", "kg m-2 s-1"⟩),
   ("SUBLIM", ⟨"surface_snow_and_ice_sublimation_flux", "kg m-2 s-1"⟩),
   ("TOPMELT", ⟨"surface_snow_and_ice_melt_heat_flux", "W m-2"⟩),
   ("BOTMELT", ⟨"heat_flux_into_sea_ice_base", "W m-2"⟩),
   ("TAUX", ⟨"surface_downward_eastward_stress", "N m-2"⟩),
   ("TAUY", ⟨"surface_downward_northward_stress", "N m-2"⟩),
   ("WIND10", ⟨"wind_speed_at_10m", "m s-1"⟩),
   ("MSLP", ⟨"air_pressure_at_mean_sea_level", "Pa"⟩),
   ("PRESS", ⟨"surface_air_pressure", "Pa"⟩),
   ("RIVRUN", ⟨"surface_runoff_flux", "kg m-2 s-1"⟩),
   ("DRAIN", ⟨"subsurface_runoff_flux", "kg m-2 s-1"⟩),
   ("RIVOUT", ⟨"water_flux_from_rivers_into_ocean", "kg m-2 s-1"⟩)]

def lookup? (key : String) : Option CfName := usual.lookup key

end CfName

/-- The rows of the table of CF names, each under its key. -/
structure CfTable where
  rows : List (String × CfName) := []
  deriving DecidableEq, Repr

namespace CfTable

/-- The number of the row of `key`, counted from 1, if it has one. -/
def index? (t : CfTable) (key : String) : Option Nat :=
  (t.rows.findIdx? fun row => row.1 = key).map (· + 1)

/-- The number of the row of `key` and the table that has this row, a new last row if `key` had
none. -/
def insert (t : CfTable) (key : String) (name : CfName) : Nat × CfTable :=
  match t.index? key with
  | some index => (index, t)
  | none => (t.rows.length + 1, ⟨t.rows ++ [(key, name)]⟩)

def row (index : Nat) (name : CfName) : String :=
  s!"{index} '{name.longName}' '{name.unit}'\n"

/-- The written table: the number of rows twice, a comment, and the rows. -/
def render (t : CfTable) : String :=
  let count := t.rows.length
  s!"{count} {count}\n# index 'long name' 'unit'\n" ++
    String.join (t.rows.mapIdx fun i entry => row (i + 1) entry.2)

end CfTable

end Coupling
