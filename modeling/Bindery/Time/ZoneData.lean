/-!
# The time zone database

The zones a name may load, one record per zone. A record has four fields separated by `|`:

* the names the zone goes by, separated by spaces;
* its kinds of local time, each two base-36 digits giving its place in `zoneKinds`, where a kind
  is an offset east of UTC in seconds, an abbreviation and `1` for summer time or `0`,
  separated by commas;
* its changes, separated by spaces, each the index of the kind in force from it on followed by
  the change's distance from the one before (from the epoch for the first) in base 36 with an
  optional minus sign: after a base-36 digit the distance is in seconds, after a capital letter
  (`A` for the first kind) in quarter hours; a run `a,b*n` stands for the changes `a b`
  repeated `n` times, and an item `@k` for the changes of the `k`-th shared run;
* the rule for the changes after the last one, in the POSIX `TZ` form.
-/

namespace Bindery.Time

/-- The shared runs of changes, which the records of many zones hold alike. -/
def zoneSharedRuns : Array String := #[
  "Cdzw Bcys Cdzw Bdhg,Cdh8*4 Bdhg Cdzw Bcys Cdzw Bdhg,Cdh8*3 Bbxg Cf18 Bbxg Cfjw,Bbes*2 Cfjw Bbxg,Cf18*2 Bbxg Cfjw,Bbes*2 Cfjw Bbxg,Cf18*3 Bbxg Cfjw,Bbes*2 Cfjw Bbxg,Cf18*2 Bbxg Cfjw,Bbes*2 Cfjw B9us,Chmk,B9c4,Chmk,B9c4,Chmk*2 B9c4,Chmk*3 B9us Chmk,B9c4*4 Chmk B9us Chmk,B9c4*5 Chmk B9us Chmk,B9c4*4 Chmk B9us Chmk,B9c4*5 Chmk",
  "Ge00 Fdhc,Gdhc*5 Fdhc Ge00 Fdhc,Gdhc*5 Fe00 Gfk0,Fbeo*3 Gg2o,Faw0*2 Gg2o Fbeo,Gfk0*2 Fbeo Gg2o,Faw0*3 Gg2o Fbeo,Gfk0*2 Fbeo Gg2o,Faw0*2 Gg2o Fbeo,Gfk0*3 Fbeo Gg2o,Faw0*2 Gg2o Fbeo,Gfk0*2 Fbeo Gg2o,Faw0*2 Gg2o Fbeo,Gfk0*3 Fbeo Gg2o,Faw0*2 Gg2o Fbeo,Gfk0*2 Fbeo Gg2o,Faw0*3",
  "35iv8k0 C8yk Delg Ca7w Di5g,C8vw*3 Di5g C8yk Di5g,C8vw*3 Di5g C8yk D91g Cpuk D91g C1cik D5k4 C1sak Dfus Ccrx8 D5k4 C5p8 Dgw4,Ca58*2 Dgw4 Ccik Ddhg Cdzw Ddhg Cdh8 Fdhg E38d8 F798 Eayo4 F6yk",
  "Cddc Bdpg Cdbw Bciys Ca2o Bgyo C8yk Bi2s C918 Bi2s C6nw B83hg C658 Bow4 C4d8 Bi5g C6nw Bi5g C8vw Bi5g C8yk Bda5g C9uk Bglg",
  "C125uk Ddjw,Cdhg*2 Ddjw Cdk4 Edhk Fdhc,Edhc*5 Fdhc Ee00 Gdhc Hdhg E8ao F56k Edhc,Fdhc*3 Edhc Fe00 Efk0,Fbeo*3 Eg2o,Faw0*2 Eg2o Fbeo,Efk0*2 Fbeo",
  "Bg7us Adh8,Bdhg*4 Adzw Bdhg,Adh8*2 B56s Alrw B8tg Ai58 Bdhg Adzw Bcys Adzw Bdhg,Adh8*4 Bdhg Adzw Bcys Adzw Bdhg,Adh8*3 Bbxg Af18 Bbxg Afjw,Bbes*2 Afjw Bbxg,Af18*2 Bbxg Afjw,Bbes*2 Afjw Bbxg,Af18*3 Bbxg Afjw,Bbes*2 Afjw Bbxg,Af18*2 Bbxg Afjw,Bbes*2 Afjw B9us,Ahmk,B9c4,Ahmk,B9c4,Ahmk*2 B9c4,Ahmk*3 B9us Ahmk,B9c4*4 Ahmk B9us Ahmk,B9c4*5 Ahmk B9us Ahmk,B9c4*4 Ahmk B9us Ahmk,B9c4*5",
  "C9uo Be00 Cc00 Bdxc Ce2o Bdeo Cdk0 Bdeo Cfmo Bbuo Cdk0 Bcw0 Ceio Beio Caw0 Bfk0 Cbxc Bfk0 Ccg0 Beio Ccg0 Be00 Ccyo Bf1c Ccg0 Beio Ccg0 Be00 Ccyo Beio,Ccg0*2 Be00 Cdhc Beio Ccg0 Be00 Ccyo Beio,Ccg0*2 Be00 Ccyo Beio",
  "Jdh8,Idhg*2 Jdh8 Ibxg Jf18 Ibxg Jfjw,Ibes*2 Jfjw Ibxg,Jf18*2 Ibxg Jfjw,Ibes*2 Jfjw Ibxg,Jf18*3 Ibxg Jfjw,Ibes*2 Jfjw Ibxg,Jf18*2 Ibxg Jfjw,Ibes*2 Jfjw I9us,Jhmk,I9c4,Jhmk,I9c4,Jhmk*2 I9c4,Jhmk*3 I9us Jhmk,I9c4*4 Jhmk I9us Jhmk,I9c4*5 Jhmk I9us Jhmk,I9c4*4 Jhmk I9us Jhmk,I9c4*5",
  "Hg2o,Gaw0*2 Hg2o Gbeo,Hfk0*2 Gbeo Hg2o,Gaw0*3 Hg2o Gbeo,Hfk0*2 Gbeo Hg2o,Gaw0*2 Hg2o Gbeo,Hfk0*3 Gbeo Hg2o,Gaw0*2 Hg2o Gbeo,Hfk0*2 Gbeo Hg2o,Gaw0*2 Hg2o Gbeo,Hfk0*3 Gbeo Hg2o,Gaw0*2 Hg2o Gbeo,Hfk0*2 Gbeo",
  "Cdzw Bcys Cdzw Bdhg,Cdh8*4 Bdhg Cdzw Bcys Cdzw Bdhg,Cdh8*3 Bbxg Cf18 Bbxg Cfjw,Bbes*2 Cfjw Bbxg,Cf18*2 Bbxg Cfjw,Bbes*2 Cfjw Bbxg,Cf18*3 Bbxg",
  "Dcyo Ee00 Ddh8 Edhg Dfjw Ebhg Dfhc Ebhg Dg2k,Eaw4*2 Dg2k Ebc0 Dfmk Ebes Dfk0 Ebeo Dg00 Eb1c Dg04 Edhg Ddh8 Ecys Ddzw Ecg4 Deik Ebes Dfjw Ebes Dg2k,Eaw4*2 Dg2k Ebes,Dfjw*2 Ebes Dg2k,Eaw4*3 Dg2k Ebes Df18 Ebxg Deik Ecg4 Ddh8 Edhg Dcyk Ee04 Dbx8 E3ms Dik Ebes Davw E344 D1jw Ebes Dad8 E344 D22k Ebes D9bw E3ms D2l8 Ebes D8t8 E344 D458 Eaw4 D8ak E344 D4nw Eaw4 D798 E3ms D56k Ebes D67w E344 D67w Ebes D56k E3ms D6qk Ebes D4nw E344 D8ak Eaw4 D458 E344 D8t8 Eaw4 D33w E3ms D9bw Ebes D22k E344 Dad8 Ebes D118 E3ms Davw Ebes Dik E3ms Dbek Eeis Dcyk Edhg Ddh8 Ecg4 Deik Ebxg Df18 Ebes Dfjw Ebes Dg2k,Eaw4*3 Dg2k Ebes,Dfjw*2 Ebes Dg2k,Eaw4*2 Dfjw Ebxg Deik Ecg4 Ddzw Ecys Dcyk Ee04 Dcfw E344 Dik",
  "Hcys Gdzw Hdhg,Gdh8*3 Hbxg Gf18 Hbxg Gfjw,Hbes*2 Gfjw Hbxg,Gf18*2 Hbxg Gfjw,Hbes*2 Gfjw Hbxg,Gf18*3 Hbxg Gfjw,Hbes*2 Gfjw Hbxg,Gf18*2 Hbxg Gfjw,Hbes*2 Gfjw H9us,Ghmk,H9c4,Ghmk,H9c4,Ghmk*2 H9c4,Ghmk*3 H9us Ghmk,H9c4*4",
  "Kfk0,Jbeo*3 Kg2o,Jaw0*2 Kg2o Jbeo,Kfk0*2 Jbeo Kg2o,Jaw0*3 Kg2o Jbeo,Kfk0*2 Jbeo Kg2o,Jaw0*2 Kg2o Jbeo,Kfk0*3 Jbeo Kg2o,Jaw0*2 Kg2o Jbeo,Kfk0*2 Jbeo Kg2o,Jaw0*2 Kg2o Jbeo,Kfk0*3 Jbeo Kg2o,Jaw0*2 Kg2o Jbeo,Kfk0*2",
  "B9us,Chmk,B9c4,Chmk,B9c4,Chmk*2 B9c4,Chmk*3 B9us Chmk,B9c4*4 Chmk B9us Chmk,B9c4*5 Chmk B9us Chmk,B9c4*4 Chmk B9us",
  "Fdhk Gdhc,Fdhc*5 Gdhc Fe00 Hdhc Idhg F8ao G56k Fdhc,Gdhc*3 Fdhc Ge00 Ffk0,Gbeo*3 Fg2o,Gaw0*2 Fg2o Gbeo,Ffk0*2 Gbeo",
  "Ghmk H9us Ghmk,H9c4*5 Ghmk H9us Ghmk,H9c4*4 Ghmk H9us Ghmk,H9c4*5 Ghmk",
  "De00 Cdhc,Ddhc*5 Cdhc De00 Cdhc,Ddhc*5 Ce00 Dfk0,Cbeo*3 Dg2o,Caw0*2 Dg2o Cbeo,Dfk0*2 Cbeo Dg2o,Caw0*3 Dg2o Cbeo,Dfk0*2 Cbeo Dg2o,Caw0*2 Dg2o Cbeo,Dfk0*3 Cbeo Dg2o,Caw0*2 Dg2o Cbeo,Dfk0*2 Cbeo Dg2o,Caw0*2 Dg2o Cbeo,Dfk0*3 Cbeo Dg2o,Caw0*2 Dg2o Cbeo,Dfk0*2 Cbeo Dg2o,Caw0*3",
  "Fe00 Edhc,Fdhc*5 Edhc Fe00 Edhc,Fdhc*5 Ee00 Ffk0,Ebeo*3 Fg2o,Eaw0*2 Fg2o Ebeo,Ffk0*2 Ebeo Fg2o,Eaw0*3 Fg2o Ebeo,Ffk0*2 Ebeo Fg2o,Eaw0*2 Fg2o Ebeo,Ffk0*3 Ebeo Fg2o,Eaw0*2 Fg2o Ebeo,Ffk0*2 Ebeo Fg2o,Eaw0*2 Fg2o Ebeo,Ffk0*3 Ebeo Fg2o,Eaw0*2 Fg2o Ebeo,Ffk0*2 Ebeo Fg2o,Eaw0*3",
  "B8tc C684 B9uo Ch40 Bbeo Cfk0 Bcg0 Ce00 Bcyo Ce00 Bdhc Ce00 Bcyo Ccg0 Be00 Ccyo Beio Ccg0 Bf1c Ccg0 Be00 Ccyo Beio,Ccg0*2 Be00 Ccyo Bcyo Cg2o Baw0 Cg2o Bbeo Cfk0 Baw0,Cg2o*3",
  "Ddjw,Cdhg*2 Ddjw Cdk4 Edhk Fdhc,Edhc*5 Fdhc Ee00 Gdhc",
  "Ge00 Hfk0,Gbeo*3 Hg2o,Gaw0*2 Hg2o Gbeo,Hfk0*2 Gbeo Hg2o,Gaw0*3 Hg2o Gbeo,Hfk0*2 Gbeo",
  "13dlssr 3157b79 1f4e0r 449hzb9 2aye0r Ebc4,Cfp8*3 Ebc4 Cfrw Dbc4 C7bp8 D4is E32ak Cfxc D3s0 Fg4g0 Gavw Fhms G9bw Feis Gbek Ffk4 Gbek Fg2s Gavw Ff1g Gbx8 Fg2s Gavw Fg2s Gbek,Ffk4*2 Gbek Fg2s,Gavw*2 Fg2s Gbek,Ffk4*3 Gbek Fg2s,Gavw*2 Fg2s Gdh8 Fdhg Gbek Ffk4 Gbek Fg2s Gavw Fe04 Gcyk Fg2s Gbek,Ffk4*3 Gbek Fg2s Gavw Fg2s Gcfw Feis Gbek Feis Gdzw Fe04 Gbek Fg2s,Gavw*3 Fg2s Gbek,Ffk4*2 Gbek Fg2s Gavw Fg2s Gcfw Feis Gbek Ffk4 Gcyk Fe04 Gfjw F7s4 Ginw F9c4 Ghmk F9us Gh3w F9us",
  "Hfjw,Gbes*2 Hfjw G9us,Hhmk,G9c4,Hhmk,G9c4,Hhmk*2 G9c4,Hhmk*3 G9us Hhmk,G9c4*4 Hhmk G9us Hhmk,G9c4*5 Hhmk G9us Hhmk,G9c4*4 Hhmk G9us Hhmk,G9c4*5 Hhmk",
  "Ifk0,Hbeo*3 Ig2o,Haw0*2 Ig2o Hbeo,Ifk0*2 Hbeo Ig2o,Haw0*3 Ig2o Hbeo,Ifk0*2 Hbeo Ig2o,Haw0*2 Ig2o Hbeo,Ifk0*3 Hbeo Ig2o,Haw0*2 Ig2o Hbeo,Ifk0*2 Hbeo Ig2o,Haw0*2 Ig2o Hbeo,Ifk0*3 Hbeo Ig2o,Haw0*2 Ig2o Hbeo,Ifk0*2",
  "Efjw Dbes Efjw De04 Eavw De04 Ef18,Dbxg*2 Efjw,Dbes*3 Efjw Dbxg,Ef18*2",
  "C8ak Biqs C7rw Bio4 C7rw Bj6s C8t8 Bio4 C8t8 Bi5g C8ak Bj6s C798 Bj6s C9bw,Bhms*2 C8t8 Bhms C9uk Bh6s Cat8 Bglg C9uk Bglg Cavw",
  "C91c B3hc C1gw0 Bb6o Cfuo Bb9c Cfuo Bcao,Ceqo*2 E7wns Danw Efpg Dbbw Efpk Db9g Efuk Db9g,Efrw*3 Db9g Efuk Db9g,Efrw*2 Dbc4 Efp8 G2l4 F5bs4 G798 Fe04 G9uk H3p9g I340 H2qio I8ao Fh40 Gad8 Fj6s G8ak Fgas Gb6k Ffk4 Gavw Fhms G9bw Ff1g Gbek Ffk4,Gbx8*2 Ffes Gbjw Ffes Gb18 Ffxg Gbjw D8w4 E71c Jcg0,Eeio*2 Jcg0 Efk0 Ddh8 Ee04 Ddh8,Edhg*4 Dcg0 Eeio Dcqs Ed98 Dcvw Ee5g Dc84",
  "Cdzw Bcys Cdzw Bdhg,Cdh8*4 Bdhg Cdzw",
  "Ldhc Mdhc Le00 Mcyo Ldhc,Mdhc*3 Ldhc Me00 Ldhc,Mdhc*5 Ldhc Me00 Ldhc,Mdhc*5 Le00 Mfk0,Lbeo*3 Mg2o,Law0*2 Mg2o Lbeo,Mfk0*2 Lbeo Mg2o,Law0*3 Mg2o Lbeo,Mfk0*2 Lbeo Mg2o,Law0*2 Mg2o Lbeo,Mfk0*3 Lbeo Mg2o,Law0*2 Mg2o Lbeo,Mfk0*2 Lbeo Mg2o,Law0*2 Mg2o Lbeo,Mfk0*3 Lbeo Mg2o,Law0*2 Mg2o Lbeo,Mfk0*2 Lbeo Mg2o,Law0*3 Mg2o Lbeo,Mfk0*2",
  "Bdhg,Cdh8*2 B56s Clrw B8tg Ci58 Bdhg",
  "Eg2o,Faw0*3 Eg2o Fbeo,Efk0*2",
  "F-1spy0 Bpto8 Cfjw Bbes Cfjw Dgr44 E2n0c C3fk",
  "E1vs0 Fco0 E15hc Fcg0 Ee00 Fcyo,Eeio*2 Fcg0 E15hc Fcg0 Edhc Fdhc E14yo Fdhc Ecyo Fe00 Eeio Fcg0 Edhc Fdhc Ecyo Fe00 Eeio Fg2o E79c Fgqo Edc0 Fdk0 Ebuo H33w E8ao F56s Eadc H2l8 E9uo F4o4,E9uo,H33w,E9c0*2 F4o4 Ebxc Fdhc Edho Fdhc,Edhc*4 Fe00 Edhc,Fdhc*4 Edhc Fe00 Edhc,Fdhc*5 Edhc Fe00 Edhc,Fdhc*3",
  "Dbxg Efjw,Dbes*2 Efjw Dbxg,Ef18*3 Dbxg Efjw,Dbes*2 Efjw Dbxg,Ef18*2",
  "Cavw Bg2s Cbek,Bfk4*4 Cbek Bg2s Cbek,Bfk4*4 Cbek Bg2s Cavw Bg2s",
  "Eaw4 Davw E3ms D1jw Ebes D9uk E344 D2l8 Ebes D8t8 E3ms D33w Ebes D8ak E3ms D458 Eaw4 D7rw E344 D56k Eaw4 D6qk E3ms D5p8 Ebes D5p8 E344 D6qk Ebes D56k E344 D798 Ebes D458 E3ms D7rw Ebes D3mk E344 D9bw Eaw4 D2l8 E3ms D9uk Eaw4 D22k E3ms Dad8",
  "Bg04 Cb18 Bcw4 Ccyk Be04 Cdjw Bdes Cdh8 Be04 Ccyk Bdhg,Cdh8*3 Bdhg Cdzw Bdhg,Cdh8*5 Bdhg Cdzw Bdhg,Cdh8*5 Be04 Cdh8,Bdhg*2 Dfkc Ebeo Dg2o,Eaw0*2 Dg2o Ebeo,Dfk0*2 Ebeo Dg2o,Eaw0*3 Dg2o Ebeo,Dfk0*2 Ebeo Dg2o,Eaw0*2 Dg2o Ebeo,Dfk0*3",
  "Fhps4 Cdh8,Fdhg*2 Cdzw Fdhg,Cdh8*2 F56s Clrw F8tg Ci58 Fdhg Cdzw Fcys Cdzw",
  "D82o Ccw0 Delc Cbc0 Dfmo Catc Dg5c C9s0 Dio0 Caio Dgo0 Cb6o Deio Ch40 D9uo Ccyo De00 Cdhc Ddhc Ceio Dcg0 Ce00 Dcyo,Ceio*2 Dcg0 Ce00 Dcyo Ceio Dcg0 Cdhc Ddhc Ccyo Deio Cdhc Ddhc Ccyo De00 Ceio Dcg0 Cdhc Ddhc",
  "Ddhc,Edhc*5 De00 Efk0,Dbeo*3 Eg2o,Daw0*2 Eg2o Dbeo,Efk0*2 Dbeo Eg2o,Daw0*3 Eg2o Dbeo,Efk0*2 Dbeo Eg2o,Daw0*2 Eg2o Dbeo,Efk0*3 Dbeo Eg2o,Daw0*2 Eg2o Dbeo,Efk0*2 Dbeo Eg2o,Daw0*2 Eg2o Dbeo,Efk0*3 Dbeo Eg2o,Daw0*2",
  "Lfk0,Kbeo*3 Lg2o,Kaw0*2 Lg2o Kbeo,Lfk0*2 Kbeo Lg2o,Kaw0*3 Lg2o Kbeo,Lfk0*2 Kbeo Lg2o,Kaw0*2 Lg2o Kbeo,Lfk0*3 Kbeo Lg2o,Kaw0*2 Lg2o Kbeo,Lfk0*2 Kbeo Lg2o,Kaw0*2 Lg2o Kbeo,Lfk0*3 Kbeo Lg2o,Kaw0*2 Lg2o Kbeo,Lfk0*2",
  "Fg5p8 G1k2w Fdh8,Gdhg*2 Fdzw Gdhg,Fdh8*2 G56s Flrw G8tg Fi58 Gdhg Fdzw Gcys Fdzw Gdhg,Fdh8*4 Gdhg Fdzw",
  "Jg2o,Iaw0*2 Jg2o Ibeo,Jfk0*2 Ibeo Jg2o,Iaw0*3 Jg2o Ibeo,Jfk0*2 Ibeo Jg2o,Iaw0*2 Jg2o Ibeo,Jfk0*3 Ibeo Jg2o,Iaw0*2 Jg2o Ibeo,Jfk0*2 Ibeo Jg2o,Iaw0*2 Jg2o Ibeo,Jfk0*3 Ibeo Jg2o,Iaw0*2 Jg2o Ibeo,Jfk0*2 Ibeo",
  "C858 Bhms C9bw Bj6s C8ak Bh44 C9bw Bi5g C8t8 Bi5g C9bw,Bhms*2 C9uk Bhms C8t8,Bi5g*2 C9bw,Bhms*3 C9bw",
  "Dg2o Ebeo,Dfk0*2 Ebeo Dg2o,Eaw0*2 Dg2o Ebeo,Dfk0*3 Ebeo Dg2o,Eaw0*2 Dg2o Ebeo,Dfk0*2 Ebeo Dg2o,Eaw0*3",
  "B-102n8 C4340 E2kvw Dcas Ebek Cdk4",
  "Be00 Cdhc,Bdhc*5 Cdhc Be00 Cdhc,Bdhc*5 Ce00 Bdhc,Cdhc*5 Be00 Cdhc,Bdhc*5 Cdhc Be00 Cdhc,Bdhc*2",
  "Edhg Cdzw Ecys Cdzw Edhg,Cdh8*4 Edhg Cdzw Ecys Cdzw Edhg,Cdh8*3 Ebxg Cf18 Ebxg Cfjw,Ebes*2 Cfjw Ebxg,Cf18*2 Ebxg Cfjw,Ebes*2 Cfjw Ebxg,Cf18*3 Ebxg Cfjw,Ebes*2 Cfjw Ebxg,Cf18*2",
  "Ng2o,Oaw0*3 Ng2o Obeo,Nfk0*2 Obeo Ng2o,Oaw0*2 Ng2o Obeo,Nfk0*3 Obeo Ng2o,Oaw0*2 Ng2o Obeo,Nfk0*2 Obeo Ng2o,Oaw0*2 Ng2o Obeo,Nfk0*3 Obeo Ng2o,Oaw0*2 Ng2o Obeo,Nfk0*2 Obeo",
  "Eh44 Fad8 D4xus Fb9c",
  "Cfjw Fbxg,Cf18*2 Fbxg Cfjw,Fbes*2 Cfjw Fbxg,Cf18*3 Fbxg Cfjw,Fbes*2 Cfjw Fbxg,Cf18*2",
  "Ccd8 Belg Ccfw Beo4 Ccfw Beis Ccik Beg4 Ccl8 Bedg Ccnw Beas Cct8 Be5g Ccvw Belg Ccfw Beis Ccik Beg4 Ccnw Beas Ccqk Be84 Cct8 Be5g Ccvw Belg Ccik Beg4 Ccl8 Daplg",
  "Cg2o B79c Dw58 B79c Dhmo B9c0 Dhmo B9uo Dh40 Bcg0 Delc B7pc C684 Be00 Ccyo Bbxc",
  "Hg2o,Gaw0*3 Hg2o Gbeo,Hfk0*2",
  "Dbxg Cfjw,Dbes*2 Cfjw Dbxg,Cf18*2 Dbxg Cfjw,Dbes*2 Cfjw Dbxg,Cf18*3 Dbxg Cfjw,Dbes*2 Cfjw Dbxg,Cf18*2 Dbxg Cfjw,Dbes*2 Cfjw D9us,Chmk,D9c4,Chmk,D9c4,Chmk*2",
  "C15n0 Daw0 Ce00 Ddhc Cdhc Ddhc Ccdc Fs79c Gdhc Fdhc",
  "Bpto8 Cfjw Bbes Cfjw",
  "Dfjw Ebxg,Df18*2 Ebxg Dfjw,Ebes*2 Dfjw E9us,Dhmk,E9c4,Dhmk,E9c4,Dhmk*2 E9c4,Dhmk*3 E9us Dhmk,E9c4*4 Dhmk E9us Dhmk,E9c4*5 Dhmk E9us Dhmk,E9c4*4 Dhmk",
  "C8ak Biqs C7rw",
  "Chmk D9us Chmk,D9c4*5 Chmk D9us Chmk,D9c4*4 Chmk D9us Chmk,D9c4*5 Chmk",
  "Dhmk C9us Dhmk,C9c4*5 Dhmk C9us Dhmk,C9c4*4 Dhmk C9us Dhmk,C9c4*5 Dhmk",
  "B-14c2w Abc4 Celk Dbeo Cfk0 Dbeo Cg6tc D1y00 Caw0 De00 Cdhc Ddhc Cdhc Dcdc Cnphc Dcyo Ce00 Ddhc Cdhc Ddhc Ce00 Dcyo Cdhc,Ddhc*3 Cdhc",
  "Fg2o,Gaw0*3 Fg2o Gbeo,Ffk0*2",
  "Fe00 Efk0,Fbeo*3 Eg2o,Faw0*2 Eg2o Fbeo,Efk0*2",
  "Badc,Cglc*4 Baw0,Cg2o*2 Baw0 Cglc,Badc*2 Cglc",
  "Gfjw H9us,Ghmk,H9c4,Ghmk,H9c4,Ghmk*2 H9c4,Ghmk*3 H9us Ghmk,H9c4*4",
  "C125uk Ddjw,Cdhg*2 Ddjw Cdk4 Edhk Fdhc,Edhc*4 Gdhc Hdhg Gdhc He00",
  "Ehmk,D9c4*5 Ehmk D9us Ehmk,D9c4*4 Ehmk D9us",
  "Cfjw Bbxg,Cf18*2 Bbxg Cfjw,Bbes*2",
  "C65c Bim80 C6g0 Bdhc Cdhc Be00 Ccyo Bkqo0",
  "Cbek,Bfk4*4 Cbek Bg2s",
  "Edhg Ddzw Ecys Ddzw Edhg,Ddh8*3 Ebxg Df18 Ebxg Dfjw,Ebes*2 Dfjw Ebxg,Df18*2 Ebxg Dfjw,Ebes*2 Dfjw Ebxg,Df18*3 Ebxg",
  "Bglg C9uk Bhms C9bw Bj6s C7rw",
  "Edjw Ddhc Cdk0 Ddhg Cdjw Ddk4",
  "C3xx8 Ddjw Cdk4 Ddh8,Cdhg*6 Ddzw Cdhg,Ddh8*5 Ce04 Ddh8,Cdhg*2 Ddh8 C1xxo Dbek Cdhg,Ddh8*4 Cdhg Ddzw C6dpg Ddh0",
  "Jdhk Kdhc,Jdhc*4 Ldhc Mdhg Ldhc Me00 Ldhc,Mdhc*5 Le00",
  "Bg2s Cavw Bg2s",
  "Ifjw Hbxg,If18*2 Hbxg Ifjw,Hbes*2 Ifjw Hbxg,If18*3 Hbxg Ifjw,Hbes*2 Ifjw Hbxg,If18*2 Hbxg Ifjw,Hbes*2",
  "Fdhk Gdhc,Fdhc*5 Gdhc Fe00",
  "Hbeo Ig2o,Haw0*3 Ig2o Hbeo,Ifk0*2",
  "Jbeo Kg2o,Jaw0*3 Kg2o Jbeo,Kfk0*2",
  "Cbeo,Bfk0*3 Cbeo Bg2o Caw0 Bbeo Cfk0 Bg2o Cbeo,Bfk0*2 Cbeo Bg2o Caw0 Bg2o Cbeo Bfk0 Caw0 Bg2o",
  "E9us Chmk,E9c4*4 Chmk E9us Chmk,E9c4*5 Chmk E9us Chmk,E9c4*4 Chmk E9us Chmk,E9c4*5 Chmk",
  "H9us Ihmk,H9c4*4 Ihmk H9us Ihmk,H9c4*5 Ihmk H9us Ihmk,H9c4*4 Ihmk H9us Ihmk,H9c4*5 Ihmk",
  "Eglg Fad8 Eh44 C9uk Eh48 F9ug",
  "C65c Bim80 C6g0 Bdhc Cdhc Bnqio C9c0 B6idc C9c0 B5sg0 C7s0 Bb39c C8ao Bg2o Cbeo Bfk0",
  "C8tc Bi5c C9c0,Bhmo*3 C9uo Bhmo,C9c0*5 Bhmo",
  "Fbeo Eg2o,Faw0*2 Eg2o Fbeo,Efk0*3 Fbeo Eg2o,Faw0*2 Eg2o Fbeo,Efk0*2 Fbeo Eg2o,Faw0*2",
  "Ng2o,Maw0*2 Ng2o Mbeo,Nfk0*2 Mbeo Ng2o,Maw0*3 Ng2o Mbeo,Nfk0*2 Mbeo Ng2o,Maw0*2 Ng2o",
  "Cg2o B79c G9h0 E1r6w Faw0 Ee00 Fdhc Edhc Fdhc I2no B51o C684 Be00 Ccyo Bbxc H22k",
  "Hg2o Eaw0 H2oyk",
  "Jdhc Kdhc Je00 Kcyo Jdhc,Kdhc*3 Jdhc Ke00 Jdhc,Kdhc*5 Jdhc Ke00 Jdhc,Kdhc*5 Je00",
  "Fbeo Eg2o Iaw0",
  "Dgr44 E2n08 C3fo Bg7us Cdh8,Bdhg*4 Cdzw",
  "Fdhg,Cdh8*4 Fdhg Cdzw Fcys",
  "Hdhg E8ao F56k Edhc,Fdhc*3",
  "Edhc Gqyk Hdhg Gdhc,Hdhc*3",
  "Ce00 Ddhc,Cdhc*5 Ddhc Ce00 Ddhc,Cdhc*5",
  "Ddjw,Hdhg*2 Ddjw Hdk4 Idhk Jdhc,Idhc*5",
  "Bio4 C7rw Bj6s C8t8",
  "Cg2o Dbeo,Cfk0*3 Dbeo Cg2o,Daw0*2 Cg2o Dbeo,Cfk0*2 Dbeo Cg2o Daw0 Cg2o",
  "Hfjw,Gbes*2 Hfjw Gbxg,Hf18*3 Gbxg Hfjw,Gbes*2 Hfjw Gbxg,Hf18*2 Gbxg",
  "He00 Gdhc,Hdhc*5 Ge00 Hfk0,Gbeo*3",
  "Fg2o,Gaw0*2 Fg2o Gbeo,Ffk0*2 Gbeo",
  "Kbeo Lg2o,Kaw0*3 Lg2o Kbeo,Lfk0*2",
  "Cbc4 Delk Ebeo Dfk0 Ebeo Dg6tc E1y00 Daw0 Ee00 Ddhc Edhc Ddhc",
  "He00 Ifk0,Hbeo*3 Ig2o,Haw0*2 Ig2o Hbeo,Ifk0*2 Hbeo Fg2o 5hc4x7j",
  "Icyo Hdhc,Idhc*3 Hdhc Ie00 Hdhc,Idhc*5 Hdhc Ie00 Hdhc,Idhc*5",
  "F1c404 Cf18 Fbxg Cf18 Dbxk Ef18",
  "Bdhg,Cdh8*4 Bdhg Cdzw",
  "Afjw Bbes Afjw Cgr44",
  "Fg2k Gbes,Ffjw*4 Gbes Fg2k Gaw4 Fg2k Gbes,Ffjw*4 Gbes",
  "Bcys Cdzw Bdhg,Cdh8*3 Bbxg Cf18 Bbxg Cfjw,Bbes*2 Cfjw",
  "Cf18,Fbxg*3 Cfjw Fbes Cfjw Fe04 Cavw Fe04 Cf18,Fbxg*2",
  "Dcys Edzw Ddhg,Edh8*4 Ddhg Edzw Dcys Edzw Ddhg,Edh8*3",
  "Jg2o,Iaw0*3 Jg2o Ibeo,Jfk0*2",
  "C36w0 F1es E2nek F5p8 5fkr4rj",
  "Cbek Bfk4 Cbek",
  "D9us Ehmk,D9c4*4 Ehmk D9us",
  "Bbes Cg2k,Baw4*2 Cg2k Bbes,Cfjw*3 Bbes Cg2k,Baw4*2",
  "Eg2o Dbeo,Efk0*2 Dbeo Eg2o,Daw0*3 Eg2o Dbeo,Efk0*2",
  "Faw0 Ee00 Fdhc",
  "Ceik Dhi2s E2n04 C3fs B16is Cbek,Bfk4*2 Cbek Bg2s",
  "C3cqk Da2s C8w0 Dgvw,Ca5g*2 Dgvw Ca84 Dgvw Ca5g",
  "Gi58 Hdhg Gdzw Hcys Gdzw Hdhg,Gdh8*4 Hdhg Gdzw",
  "Cdzw Dcys Cdzw Ddhg,Cdh8*4 Ddhg Cdzw Dcys Cdzw",
  "Edhk Fdhc,Edhc*3 Gdhc Hdhg Gdhc Hdhc Gdhc He00",
  "F9us Chmk,F9c4*4 Chmk F9us Chmk,F9c4*5 Chmk",
  "H9us Ghmk,H9c4*4 Ghmk H9us Ghmk,H9c4*5 Ghmk",
  "Fdhc Ee00 Fdhc,Edhc*5 Fdhc Ee00 Fdhc,Edhc*5",
  "Ceik Bfk4 Cbuc Dgqoc E2n00 C3fw Fepek Ce00",
  "Cda2u D65c Cim80 D6g0 Cdhc Ddhc Ce00 Dcyo",
  "Eglg Fad8 Eh44,F9uk*2",
  "Dbxg Efjw,Dbes*2 Efjw",
  "Cbek,Bfk4*4 Cdzw Bdhg",
  "Beis Cbek,Bfk4*2 Cbek",
  "Edjw,Ddhg*2 Edjw Ddk4",
  "Edhc De00 Edhc,Ddhc*5",
  "F5p8 Eg2s Favw 5f2123j",
  "Hdhg Gdh8 Bqmqs Cfk0",
  "Baw0 Cglc B8ao",
  "Fbxg Cfjw Fbes Cfjw",
  "Ddhc Edhc De00 Ecyo",
  "3eeb94d 41kbr2o F49c0 68n3jc F2ol6 Hra84",
  "Hg2o,Gaw0*2 Hg2o Gbeo,Hfk0*2 Gbeo",
  "Eg2o,Faw0*2 Eg2o Fbeo,Efk0*2 Fbeo",
  "Dg2o,Eaw0*2 Dg2o Ebeo,Dfk0*2 Ebeo",
  "Ehmo F9uo Ehmo,F9c0*5 Ehmo F9uo",
  "Gdzw Hdhg,Gdh8*2 B56s Gls0 H8tc",
  "Hdhc Ge00 Hdhc,Gdhc*5 Hdhc Ge00"]

/-- The kinds of local time the records name, separated by `;`. -/
def zoneKinds : Array String := (#[
  "-968,LMT,0;0,GMT,0;-52,LMT,0;1200,+0020,1;1800,+0030,0;1800,+0030,1;9288,LMT,0;9320,ADMT,0",
  "10800,EAT,0;732,LMT,0;561,PMT,0;3600,WEST,1;0,WET,0;7200,CEST,1;3600,CET,0;9332,LMT,0",
  "9332,AMT,0;-1920,LMT,0;-3600,-01,0;4460,LMT,0;3600,WAT,0;-3996,LMT,0;-3996,BMT,0;-3740,LMT,0",
  "8400,LMT,0;8470,ZMT,0;8460,ZMT,0;7200,CAT,0;3668,LMT,0;7048,LMT,0;7509,LMT,0;10800,EEST,1",
  "7200,EET,0;-1820,LMT,0;3600,+01,1;0,+00,0;3600,+01,0;-1276,LMT,0;-3292,LMT,0;-4184,LMT,0",
  "9428,LMT,0;9900,+0245,0;10356,LMT,0;2328,LMT,0;-3168,LMT,0;-3180,LMT,0;-3180,FMT,0",
  "-2400,-0040,1;6220,LMT,0;5400,SAST,0;10800,CAST,1;7452,LMT,0;6720,LMT,0;10800,SAST,1",
  "7200,SAST,0;7588,LMT,0;7780,LMT,0;9000,+0230,0;7808,LMT,0;7216,LMT,0;3672,LMT,0;815,LMT,0",
  "2268,LMT,0;292,LMT,0;3176,LMT,0;3124,LMT,0;6592,LMT,0;6788,LMT,0;2108,LMT,0;7818,LMT,0",
  "6600,LMT,0;7464,LMT,0;10888,LMT,0;-2588,LMT,0;-2588,MMT,0;-2670,MMT,0;8836,LMT,0;3612,LMT,0",
  "7200,WAST,1;508,LMT,0;-3828,LMT,0;-364,LMT,0;628,LMT,0;1616,LMT,0;-2205,LMT,0;3164,LMT,0",
  "2444,LMT,0;4104,LMT,0;5400,+0130,0;7200,CAT,1;44002,LMT,0;-42398,LMT,0;-39600,NST,0",
  "-36000,NWT,1;-36000,NPT,1;-39600,BST,0;-36000,BDT,1;-36000,AHST,0;-32400,HDT,1;-36000,HST,0",
  "50424,LMT,0;-35976,LMT,0;-36000,AST,0;-32400,AWT,1;-32400,APT,1;-32400,AHDT,1;-32400,YST,0",
  "-28800,AKDT,1;-32400,AKST,0;-15136,LMT,0;-14400,AST,0;-14832,LMT,0;-18000,EST,0;-11568,LMT,0",
  "-7200,-02,1;-10800,-03,0;-14028,LMT,0;-15408,CMT,0;-14400,-04,0;-10800,-03,1;-15788,LMT,0",
  "-15408,LMT,0;-15672,LMT,0;-16044,LMT,0;-16516,LMT,0;-16612,LMT,0;-15700,LMT,0;-16444,LMT,0",
  "-15924,LMT,0;-15652,LMT,0;-16392,LMT,0;-16824,LMT,0;-16200,-0430,0;-13840,LMT,0;-13840,AMT,0",
  "-21988,LMT,0;-18000,CDT,1;-21600,CST,0;-18000,CWT,1;-18000,CPT,1;-9244,LMT,0;-25260,LMT,0",
  "-25200,MST,0;-21600,MDT,1;-14309,LMT,0;-10800,ADT,1;-12600,-0330,1;-11636,LMT,0;-21168,LMT,0",
  "-19800,-0530,1;-13708,LMT,0;-10800,AWT,1;-10800,APT,1;-14560,LMT,0;-17776,LMT,0;-17776,BMT,0",
  "-14400,-04,1;-18000,-05,0;-27889,LMT,0;-25200,PDT,1;-28800,PST,0;-21600,MWT,1;-21600,MPT,1",
  "0,-00,0;-13108,LMT,0;-20824,LMT,0;-14400,EDT,1;-16064,LMT,0;-16060,CMT,0;-12560,LMT,0",
  "-19532,LMT,0;-18430,KMT,0;-21036,LMT,0;-25460,LMT,0;-25556,LMT,0;-20173,LMT,0;-20173,SJMT,0",
  "-17296,LMT,0;-16965,SMT,0;-27964,LMT,0;-13460,LMT,0;-16547,LMT,0;-4480,LMT,0;-33460,LMT,0",
  "-28800,YDT,1;-28800,YWT,1;-28800,YPT,1;-25200,YDDT,1;-28856,LMT,0;-25200,PWT,1;-25200,PPT,1",
  "-25196,LMT,0;-19931,LMT,0;-14400,EWT,1;-14400,EPT,1;-14736,LMT,0;-27232,LMT,0;-16768,LMT,0",
  "-21408,LMT,0;-28084,LMT,0;-29447,LMT,0;-20678,LMT,0;-9240,LMT,0;-14388,LMT,0;-12416,LMT,0",
  "-7200,-02,0;-3600,-01,1;-14500,LMT,0;-12652,NST,0;-9052,NDT,1;-12600,NST,0;-9000,NDT,1",
  "-9000,NPT,1;-9000,NWT,1;-7200,ADDT,1;-17072,LMT,0;-14820,LMT,0;-14768,LMT,0;-21724,LMT,0",
  "-19160,LMT,0;-18840,QMT,0;-13959,LMT,0;-13500,-0345,0;-15264,LMT,0;-19768,LMT,0;-19776,HMT,0",
  "-14400,CDT,1;-18000,CST,0;-26632,LMT,0;-20790,LMT,0;-20723,LMT,0;-20947,LMT,0;-20823,LMT,0",
  "-20416,LMT,0;-21007,LMT,0;-20785,LMT,0;-18430,LMT,0;54139,LMT,0;-32261,LMT,0;-20582,LMT,0",
  "-20364,LMT,0;-16356,LMT,0;-16356,CMT,0;-12756,BST,1;-18492,LMT,0;-18516,LMT,0;-28378,LMT,0",
  "-8572,LMT,0;-20708,LMT,0;-20712,MMT,0;-14404,LMT,0;-14764,LMT,0;-14660,LMT,0;-14660,FFMT,0",
  "-23400,LMT,0;-25540,LMT,0;-21027,LMT,0;-21508,LMT,0;54822,LMT,0;-31578,LMT,0;-23796,LMT,0",
  "-13480,LMT,0;-15548,LMT,0;-24076,LMT,0;-13491,LMT,0;-13491,MMT,0;-12600,-0330,0",
  "-9000,-0230,1;-5400,-0130,1;-19052,LMT,0;-14932,LMT,0;-18570,LMT,0;-17762,LMT,0;46702,LMT,0",
  "-39698,LMT,0;-7780,LMT,0;-24427,LMT,0;-24312,LMT,0;-24339,LMT,0;-25060,LMT,0;-19088,LMT,0",
  "-19176,CMT,0;-13240,LMT,0;-13252,PMT,0;-13236,PMT,0;-26898,LMT,0;-17360,LMT,0;-17340,PPMT,0",
  "-16272,LMT,0;-15336,LMT,0;-15865,LMT,0;-17020,LMT,0;-23316,LMT,0;-8376,LMT,0;-25116,LMT,0",
  "-13128,LMT,0;-16965,LMT,0;-16776,LMT,0;-16800,SDMT,0;-16200,-0430,1;-11188,LMT,0;-5272,LMT,0",
  "0,+00,1;53927,LMT,0;-32473,LMT,0;-12652,LMT,0;-5400,NDDT,1;-15052,LMT,0;-14640,LMT,0",
  "-14640,CMT,0;-15584,LMT,0;-14696,LMT,0;-14696,KMT,0;-25880,LMT,0;-20932,LMT,0;-16508,LMT,0",
  "-15508,LMT,0;-29548,LMT,0;-32412,LMT,0;52865,LMT,0;-33535,LMT,0;28800,+08,0;39600,+11,0",
  "25200,+07,0;18000,+05,0;36000,+10,0;36000,AEST,0;39600,AEDT,1;21600,+06,0;46800,NZDT,1",
  "43200,NZST,0;10800,+03,0;7200,+02,1;2580,LMT,0;10794,LMT,0;18468,LMT,0;25200,+07,1",
  "21600,+06,1;8624,LMT,0;42596,LMT,0;43200,+12,0;50400,+14,1;46800,+13,0;46800,+13,1",
  "43200,+12,1;12064,LMT,0;14400,+04,0;18000,+05,1;13720,LMT,0;14012,LMT,0;12464,LMT,0",
  "10660,LMT,0;10656,BMT,0;14400,+04,1;12140,LMT,0;12600,+0330,0;11964,LMT,0;24124,LMT,0",
  "24124,BMT,0;20100,LMT,0;28800,+08,1;8520,LMT,0;17904,LMT,0;27580,LMT,0;27000,+0730,0",
  "21208,LMT,0;21200,HMT,0;19270,MMT,0;19800,IST,0;23400,+0630,1;27232,LMT,0;36000,+10,1",
  "32400,+09,0;32400,+09,1;25652,LMT,0;29143,LMT,0;32400,CDT,1;28800,CST,0;19164,LMT,0",
  "19172,MMT,0;19800,+0530,0;23400,+0630,0;21700,LMT,0;8712,LMT,0;30140,LMT,0;13272,LMT,0",
  "16512,LMT,0;8148,LMT,0;8272,LMT,0;10800,IDT,1;7200,IST,0;8423,LMT,0;25590,LMT,0;25590,PLMT,0",
  "27402,LMT,0;28800,HKT,0;32400,HKST,1;30600,HKWT,1;32400,JST,0;21996,LMT,0;25025,LMT,0",
  "25025,IMT,0;6952,LMT,0;7016,IMT,0;25632,LMT,0;25632,BMT,0;26400,+0720,0;25200,WIB,0",
  "33768,LMT,0;34200,+0930,0;32400,WIT,0;8454,LMT,0;8440,JMT,0;14400,IDDT,1;16608,LMT,0",
  "16200,+0430,0;38076,LMT,0;16092,LMT,0;21600,PKST,1;18000,PKT,0;21020,LMT,0;20476,LMT,0",
  "20700,+0545,0;32533,LMT,0;39600,+11,1;22286,LMT,0;24406,LMT,0;24925,SMT,0;26400,+0720,1",
  "26480,LMT,0;30000,+0820,1;11516,LMT,0;27250,LMT,0;36192,LMT,0;28656,LMT,0;28656,MMT,0",
  "28800,WITA,0;-57368,LMT,0;29032,LMT,0;32400,PDT,1;28800,PST,0;14064,LMT,0;8008,LMT,0",
  "20928,LMT,0;19900,LMT,0;17610,LMT,0;12324,LMT,0;25180,LMT,0;26240,LMT,0;26240,PMT,0",
  "30180,LMT,0;30600,KST,0;32400,KST,0;12368,LMT,0;15268,LMT,0;15712,LMT,0;23087,LMT,0",
  "23087,RMT,0;11212,LMT,0;34248,LMT,0;16073,LMT,0;30472,LMT,0;36000,KDT,1;34200,KDT,1",
  "24925,LMT,0;36892,LMT,0;29160,LMT,0;16631,LMT,0;10751,LMT,0;10751,TBMT,0;12344,LMT,0",
  "12344,TMT,0;16200,+0430,1;21516,LMT,0;33539,LMT,0;36000,JDT,1;20391,LMT,0;34374,LMT,0",
  "24624,LMT,0;31651,LMT,0;31138,LMT,0;14553,LMT,0;13505,PMT,0;10680,LMT,0;-6160,LMT,0",
  "-6872,HMT,0;-15558,LMT,0;-11958,BST,1;-15558,BMT,0;-3696,LMT,0;-5644,LMT,0;-1624,LMT,0",
  "-4056,LMT,0;-4056,FMT,0;-5280,LMT,0;-8768,LMT,0;-1368,LMT,0;-1368,JMT,0;-13884,LMT,0",
  "-13884,SMT,0;36292,LMT,0;33260,LMT,0;32400,ACST,0;37800,ACDT,1;34200,ACST,0;36728,LMT,0",
  "33948,LMT,0;35356,LMT,0;31400,LMT,0;30928,LMT,0;35100,+0945,1;31500,+0845,0;38180,LMT,0",
  "41400,+1130,1;37800,+1030,0;35756,LMT,0;34792,LMT,0;27804,LMT,0;32400,AWDT,1;28800,AWST,0",
  "-26248,LMT,0;-26248,EMT,0;-21600,-06,1;-25200,-07,0;-21600,-06,0;-18000,-05,1;-1521,LMT,0",
  "-1521,DMT,0;2079,IST,1;3600,BST,1;3600,IST,1;3600,IST,0;-36000,-10,0;-39600,-11,0",
  "-43200,-12,0;-28800,-08,0;-32400,-09,0;50400,+14,0;7200,+02,0;0,UTC,0;1172,LMT,0;4772,NST,1",
  "1172,AMT,0;1200,+0020,0;4800,+0120,1;364,LMT,0;11532,LMT,0;5692,LMT,0;5692,AMT,0;-75,LMT,0",
  "7200,BDST,1;3600,BST,0;4920,LMT,0;3208,LMT,0;10800,CEMT,1;3464,LMT,0;3464,PMT,0;1050,LMT,0",
  "1050,BMT,0;6264,LMT,0;6264,BMT,0;4580,LMT,0;2048,LMT,0;1786,BMT,0;6920,LMT,0;6900,CMT,0",
  "14400,MSD,1;10800,MSK,0;3020,LMT,0;3020,CMT,0;-1284,LMT,0;-609,LMT,0;5989,LMT,0;5989,HMT,0",
  "-1075,LMT,0;-506,LMT,0;7324,LMT,0;7324,KMT,0;11928,LMT,0;14400,MSK,0;7200,WEMT,1;3484,LMT,0",
  "1476,LMT,0;3600,WET,0;7200,WEST,1;-884,LMT,0;6616,LMT,0;6600,MMT,0;1772,LMT,0;9017,LMT,0",
  "9017,MMT,0;12679,MST,1;9079,MMT,0;16279,MDST,1;561,LMT,0;5794,LMT,0;5794,RMT,0;9394,LST,1",
  "2996,LMT,0;2996,RMT,0;12020,LMT,0;10800,+03,1;4420,LMT,0;11058,LMT,0;8184,LMT,0;8160,SMT,0",
  "5144,LMT,0;5596,LMT,0;4332,LMT,0;3614,SET,0;5940,LMT,0;5940,TMT,0;4760,LMT,0;11616,LMT,0",
  "2284,LMT,0;3921,LMT,0;6076,LMT,0;5040,WMT,0;5736,KMT,0;5040,LMT,0;3832,LMT,0;11404,LMT,0",
  "14400,EAST,1;17380,LMT,0;25372,LMT,0;23260,LMT,0;10384,LMT,0;13308,LMT,0;17640,LMT,0",
  "17640,MMT,0;13800,LMT,0;10856,LMT,0;13312,LMT,0;40160,LMT,0;3600,MET,0;7200,MEST,1",
  "41944,LMT,0;45000,NZST,1;41400,NZMT,0;43200,NZST,1;44028,LMT,0;44100,+1215,0;49500,+1345,1",
  "45900,+1245,0;45184,LMT,0;-41216,LMT,0;-41400,-1130,0;-36000,-10,1;37336,LMT,0;35312,PMMT,0",
  "-49972,LMT,0;36428,LMT,0;40396,LMT,0;-41096,LMT,0;42944,LMT,0;43012,LMT,0;-21504,LMT,0",
  "-32388,LMT,0;38388,LMT,0;-51660,LMT,0;34740,LMT,0;36000,GST,0;39600,GDT,1;36000,ChST,0",
  "-37886,LMT,0;-37800,HST,0;-34200,HDT,1;-34200,HWT,1;-34200,HPT,1;-37760,LMT,0;-38400,-1040,0",
  "-47284,LMT,0;39116,LMT,0;41088,LMT,0;-33480,LMT,0;-34200,-0930,0;-42568,LMT,0;-39600,SST,0",
  "40060,LMT,0;41400,+1130,0;-40780,LMT,0;-40800,-1120,0;40312,LMT,0;40320,+1112,0",
  "45000,+1230,1;39948,LMT,0;45432,LMT,0;-40968,LMT,0;-54124,LMT,0;32276,LMT,0;-31220,LMT,0",
  "-30600,-0830,0;-48428,LMT,0;37972,LMT,0;35320,LMT,0;48056,LMT,0;-38344,LMT,0;-37800,-1030,0",
  "-34200,-0930,1;-51420,LMT,0;34980,LMT,0;-35896,LMT,0;41524,LMT,0;44352,LMT,0;44400,+1220,0",
  "39988,LMT,0;44120,LMT,0"].toList.flatMap fun line => line.splitOn ";").toArray

def zoneRecords : Array String := #[
  "Africa/Abidjan|0001|1-u9rgl4|GMT0",
  "Africa/Accra|020301040501|2-s9p1ak 124aamk 21yhyo 1cjvlc 269weo,1ci0xc*3 269weo 1cjvlc 269weo,1ci0xc*3 269weo 1cjvlc 269weo,1ci0xc*3 269weo 1cjvlc 269weo,1ci0xc*3 269weo 1cjvlc 269weo,1ci0xc*3 269weo 1683lc 2cloeo 1668xc 2cloeo 31y8pc C2xry E3huy C91a Ei02 C91a Ei2q C91a,Ei02*3 C91a|GMT0",
  "Africa/Addis_Ababa|060708|1-1g6t8i0 2ymedb4|EAT-3",
  "Africa/Algiers|090a0b0c0c0d0e0b|1-154gb8c 4afgo4r 22qx1nl D82o Ccw0 Delc Cbc0 Dfmo Catc Dg5c C9s0 Dio0 Caio D7c0 Cdp1c E51g G79k F3318 Gdx8 Fd1g Gcd4 Eslc G6zxg E5eyk C61c0 Dbeo H47pg Gcfw Fbes Gdhg Etjs Hdhg Ee04 Gdh8|CET-1",
  "Africa/Asmara Africa/Asmera|0f0g0708|1-1g6t8j8 Cf140 3o6mlcc|EAT-3",
  "Africa/Bamako Africa/Timbuktu|0h010i01|1-u9rfuo 2bk956o Bjrxg|GMT0",
  "Africa/Bangui|0j0k|1-u9rkrw|WAT-1",
  "Africa/Banjul|0l0m0i01|1-u9re90 Cfyw0 34m1rp0|GMT0",
  "Africa/Bissau|0n0i01|B-17l98 C1bcio|GMT0",
  "Africa/Blantyre|0o0p0q0r|1-ui1t5c 21j56m2 35qqlca|CAT-2",
  "Africa/Brazzaville|0s0k|1-u9rk5w|WAT-1",
  "Africa/Bujumbura|0t0r|1-15r1ers|CAT-2",
  "Africa/Cairo Egypt|0u0v0w0v|2-1054wgl 1krj48l C5rw Beis Cbek Belg Cfh8 Bbk4 Cfuk Bb9g Cfuk Bcas Ceqk B8npg Canw Bfpg Cbbw Bfpk Cb9g Bfuk Cb9g,Bfrw*3 Cb9g Bfuk Cb9g,Bfrw*2 Cbc4 Bfp8 Cbc4 Bfrw Cbc4,Bfp8*3 Cbc4 Bfrw Cbc4,Bfp8*3 Cbc4 Bfrw Cbc4,Bfp8*3 Cbc4 Bfrw Cbc4 Bfp8 Cbc4 Blzw C51g Bl18 C604 Bfrw Cbc4,Bfp8*3 Cbc4 Bfrw Cbc4 Bg2k Cays Bfp8,Cbc4*2 Bfrw Cbc4,Bfp8*2 Cbc4 Dfh4 Cbek,Dfk4*3 Cbek Dg2s Cbek,Dfk4*4 Cbek Dg2s Cbek,Dfk4*2 Cavw Dg2s C9uk Dh44 C9bw Dhms C8t8 Dio4 C7mk B284 C1jw B2q04 C33w B2lg C458 B6gas Cdh8 Bdhg Cdzw,Bcys*2 Cdzw Bdhg,Cdh8*3 Bdhg @27 Bcys Cdzw|EET-2EEST,M4.5.5/0,M10.5.4/24",
  "Africa/Casablanca|0x0y0z100z|2-tblt9g 1di7nxg C518 B79g C4b18 B3fes Cad8 Bch04 C8uk B522s C53w B191g C6t8 Bk84 Cb3w Bi84 C4qk D47xg C1cl8 Bgug4 C6t8 Bk84 C5zw Bitg C798 Bhms C8t8 Bk8c C62o B2ao C31c Bfk0 C56o B2io C5s0 Bbeo C6o0 B2lc C6ao Bbeo C5pc B2lc C79c Bbeo C56o B2lc C8ao Baw0 C45c B340 C8tc Baw0 C3mo B2lc Cnuo B2lc,Cnc0,B340,Cnc0*2 B2lc,Cnuo,B2lc,Cnc0,B340,Cnc0*2 B2lc Cnc0 B340 Cnc0 B2lc Cnuo B2lc,Cnc0,B340,Cnc0*2 B340 Cnc0 B2lc Cnc0 B340 Cnc0 B2lc Cnuo B2lc,Cnc0,B340,Cnc0*2 B340 Cnc0 B2lc Cnc0 B340 Cnc0 B2lc Cnuo B2lc,Cnc0,B340,Cnc0*2 B340 Cnc0 B2lc Cnc0 B340 Cnc0 B2lc Cnuo B2lc,Cnc0,B340,Cnc0*2 B340 Cnc0 B2lc Cnc0 B340 Cnc0 B2lc Cnuo B2lc,Cnc0,B340,Cnc0*2 B340 Cnc0 B2lc Cnc0 B340 Cnc0 B2lc Cnuo B2lc,Cnc0,B340,Cnc0*2 B340 Cnc0 B2lc Cnc0 B340 Cnc0 B2lc Cnuo B2lc,Cnc0,B340,Cnc0*2 B2lc Cnuo B2lc Cnc0 B340 Cnc0 B2lc Cnuo B2lc Cnc0 B340|<+00>0<+01>,0/0,J365/25",
  "Africa/Ceuta|110c0b0c0c0e0d0e|B-1futc Cd198 Dbek C45hg Eco4 C15h8 Ecg4 Cdzw Ecys Ceio Ecyo Ct1tc D8uk C522s D53w C191g D6t8 Ck84 Db3w Ci84 D4qk F47xg G1j44 Hdhc,Gdhc*4 @102 @8 @53|CET-1CEST,M3.5.0,M10.5.0/3",
  "Africa/Conakry|12010i01|1-u9resk 2bk944k Bjf9g|GMT0",
  "Africa/Dakar|130i01|1-u9re3s 2fcoa7s|GMT0",
  "Africa/Dar_es_Salaam|14081508|1-kcrtxw 28ve49w B9rs1|EAT-3",
  "Africa/Djibouti|1608|1-uj8fzo|EAT-3",
  "Africa/Douala|170k|1-u9rj4o|WAT-1",
  "Africa/El_Aaiun|180i0y0z|1-isdxk0 3m2g0c0 C198 D6t8 Ck84 Db3w Ci84 D4qk Cmeys D6t8 Ck84 D5zw Citg D798 Chms D8t8 Ck8c D62o C2ao D31c Cfk0 D56o C2io D5s0 Cbeo D6o0 C2lc D6ao Cbeo D5pc C2lc D79c Cbeo D56o C2lc D8ao Caw0 D45c C340 D8tc Caw0 D3mo C2lc Dnuo C2lc,Dnc0,C340,Dnc0*2 C2lc,Dnuo,C2lc,Dnc0,C340,Dnc0*2 C2lc Dnc0 C340 Dnc0 C2lc Dnuo C2lc,Dnc0,C340,Dnc0*2 C340 Dnc0 C2lc Dnc0 C340 Dnc0 C2lc Dnuo C2lc,Dnc0,C340,Dnc0*2 C340 Dnc0 C2lc Dnc0 C340 Dnc0 C2lc Dnuo C2lc,Dnc0,C340,Dnc0*2 C340 Dnc0 C2lc Dnc0 C340 Dnc0 C2lc Dnuo C2lc,Dnc0,C340,Dnc0*2 C340 Dnc0 C2lc Dnc0 C340 Dnc0 C2lc Dnuo C2lc,Dnc0,C340,Dnc0*2 C340 Dnc0 C2lc Dnc0 C340 Dnc0 C2lc Dnuo C2lc,Dnc0,C340,Dnc0*2 C340 Dnc0 C2lc Dnc0 C340 Dnc0 C2lc Dnuo C2lc,Dnc0,C340,Dnc0*2 C2lc Dnuo C2lc Dnc0 C340 Dnc0 C2lc Dnuo C2lc Dnc0 C340|<+00>0<+01>,0/0,J365/25",
  "Africa/Freetown|191a1b0i01|1-19xcavo Dno2o 2a4v6zo 3681qo 27vcxc,3awkeo*2 27vcxc 3ayf2o 27vcxc,3awkeo*2 27vcxc 3e1j2o 24qe9c 37dqo 416dy9c|GMT0",
  "Africa/Gaborone|1c1d0r1e|1-18cyvgs 29h5hys Duh6u Cdh8|CAT-2",
  "Africa/Harare|1f0r|1-yvtf30|CAT-2",
  "Africa/Johannesburg|1g1d1h1i|1-14nj6io 35rpt0o Ctq86 Ddh8 Cdhg Ddh8|SAST-2",
  "Africa/Juba|1j1e0r080r|2-kcrsis 1kixuys @51 Cftfw|CAT-2",
  "Africa/Kampala|1k081l1508|1-lnse04 2s8lo4 Ddiyq B6rjz|EAT-3",
  "Africa/Khartoum|1m1e0r080r|2-kcrsow 1kixv4w @51 Cddfw|CAT-2",
  "Africa/Kigali|1n0r|1-i1ulkg|CAT-2",
  "Africa/Kinshasa|1o0k|1-11ngdi0|WAT-1",
  "Africa/Lagos|1p01040k|1-xnxnan 01kdnan 22ve7dd 32yfgkn|WAT-1",
  "Africa/Libreville|1q0k|1-u9rj30|WAT-1",
  "Africa/Lome|1r01|1-146nmw4|GMT0",
  "Africa/Luanda|1s1t0k|1-14phh48 2afpx08|WAT-1",
  "Africa/Lubumbashi|1u0k0r|1-11ngfr4 2bpwyb4|CAT-2",
  "Africa/Lusaka|1v0r|1-yvtekk|CAT-2",
  "Africa/Malabo|1w010k|1-u9riyk 2r44sak|WAT-1",
  "Africa/Maputo|1x0r|1-vu3fd6|CAT-2",
  "Africa/Maseru|1y1i1h|1-yvtefc 2l5xrrc Bdh8|SAST-2",
  "Africa/Mbabane|1z1i|1-yvtf3c|SAST-2",
  "Africa/Mogadishu|20081l08|1-13r0weg 2je91eg Bjjhe|EAT-3",
  "Africa/Monrovia|21222301|1-19xcbc4 Crxc0 3rl202a|GMT0",
  "Africa/Nairobi|241l081508|1-w6p5hg 2aiwqjg B14ym D5942 C46yn|EAT-3",
  "Africa/Ndjamena|250k26|1-u9rk4c 2zdk5cc Bat8|WAT-1",
  "Africa/Niamey|270i010k|1-u9rhq4 2bk99u4 Djf98|WAT-1",
  "Africa/Nouakchott|28010i01|1-u9redo 2bk93po Bk3us|GMT0",
  "Africa/Ouagadougou|2901|1-u9rh1w|GMT0",
  "Africa/Porto-Novo|2a010k|1-u9rhtg 2bk975g|WAT-1",
  "Africa/Sao_Tome|2b2c010k01|1-18vsjww 2em12kw D27nxg Er1c|GMT0",
  "Africa/Tripoli Libya|2d0d0e0w|2-q3gfrw 1gl6ajw C5uc B1bxo C67o B1b6s C6vw D296s Chaak B6o4 Cdjw Bdhg Cdjw Bdk4 Cdjw Bdus Cd6k Bdpg Cdh8 Bdc4 Cdjw Bdk4 Cdjw Bdhg Cdjw Dfxg C4tek Bds4 Ddjw Cbclk Baao Dfk0|EET-2",
  "Africa/Tunis|2e0a0d0e0e0d|1-1a9dr7w 4fke44b 2enxevl Dg2o C7c0 E17k0 Fbes Ehmw Faw0 E1ek Flg Ebzw Fdhg Edx0 Fd1o Ecd0 Cnrhg Daw0 Cg80 Dbc0 C79k0 D8lc Cdhc Ddhc Cg80 Db9c Caylc Db9g Cd44 Dg2o Caw0 Dg2o Cbeo Dfk0|CET-1",
  "Africa/Windhoek|2f2g1i1h0r0k2h0r|1-14nj4i0 25rpr00 Dtq86 Cdh8 Ezbmk F3080 Gcdo Ffjw Gbes Fg2k Gaw4 @111 Fg2k Gbes,Ffjw*4 Gbes Fg2k Gaw4 Fg2k Gbes,Ffjw*3 Gbes E3ro|CAT-2",
  "America/Adak America/Atka US/Aleutian|2i2j2k2l2m2n2o2p2q2r|1-1hc7qjz 2h4z1xp 3ln70qa E2mzs C3g4 @41 Gcys Hdzw J2ag Ib6w @7 Jhmk|HST10HDT,M3.2.0,M11.1.0",
  "America/Anchorage US/Alaska|2s2t2u2v2w2p2x2y2z30|1-1hc7qjz 2h4ywzb 3ln72wo E2mzw C3g0 @41 Gcys Hdzw J2ag Ib6w @7 Jhmk|AKST9AKDT,M3.2.0,M11.1.0",
  "America/Anguilla|3132|1-u6m6zk|AST4",
  "America/Antigua|333432|1-u6m780 2k9mqg0|AST4",
  "America/Araguaina|353637|2-t85j2o 199k8mo @3 @58 @99 B49hg C8t8 Bhms C9uk Bh6s Cat8 Bglg C9uk Bglg Cavw @72 B79us C8t8 2d07nfj|<-03>3",
  "America/Argentina/Buenos_Aires America/Buenos_Aires|38393a3b3637|1-138aaic 2db2bqc @2 @132 @49 E5vpc @138|<-03>3",
  "America/Argentina/Catamarca America/Argentina/ComodRivadavia America/Catamarca|3c393a3b3637|1-138a95g 2db2adg @2 @84 @49 @116|<-03>3",
  "America/Argentina/Cordoba America/Cordoba America/Rosario|3d393a3b3637|1-138a9g0 Cj5uo @2 @84 @49 E5vpc @138|<-03>3",
  "America/Argentina/Jujuy America/Jujuy|3e393a3b3637|1-138a98o 2db2ago @2 Eglg Cad8 Dhmw Cad8 Ef1g Favs @49 E5vpc F5p8 5fkr4rj|<-03>3",
  "America/Argentina/La_Rioja|3f393a3b3637|1-138a8yc 2db2a6c @2 Eglg Fad8 Eh44 C9p8 F4yw Ecak F9uk @49 @116|<-03>3",
  "America/Argentina/Mendoza America/Mendoza|3g393a3b3637|1-138a8l8 2db29t8 @2 Eglg Cad8 Dgo8 Ca58 Dgw4 Ca7w Eh44 Fad4 D4xus Fb9c C3680 F9c4 E2g58 F5p8 5fkr4rj|<-03>3",
  "America/Argentina/Rio_Gallegos|3h393a3b3637|1-138a8ik 2db29qk @2 @132 @49 @116|<-03>3",
  "America/Argentina/Salta|3i393a3b3637|1-138a97w 2db2afw @2 @84 @49 E5vpc F5p8 5fkr4rj|<-03>3",
  "America/Argentina/San_Juan|3j393a3b3637|1-138a8n8 2db29v8 @2 Eglg Fad8 Eh44 C9p8 F4yw Ecak F9uk @49 C36tc F42s E2kt8 F5p8 5fkr4rj|<-03>3",
  "America/Argentina/San_Luis|3k393a3b36373b|1-138a91o 2db2a9o @2 Eglg Cb3w Dfxk Ca58 F6tg D69mk Fb9c C36tc F42s E2kt8 D1mk C3k4 Dg2s Cavw Fg2s 5er80jj|<-03>3",
  "America/Argentina/Tucuman|3l393a3b3637|1-138a998 2db2ah8 @2 @84 @49 C36w0 Fw4 E2nx8 @138|<-03>3",
  "America/Argentina/Ushuaia|3m393a3b3637|1-138a8oo 2db29wo @2 @132 @49 C36qo F1k4 E2nek F5p8 5fkr4rj|<-03>3",
  "America/Aruba|3n3o32|1-u7lcco 2rlo7io|AST4",
  "America/Asuncion|3p3q3a373b|1-15r0ynk Cve2o 3ldwofk C14ik E14lg Cb98 Efus,Cb6k*2 Efus Cdh8 Edk4 Cdjw Edk4,Cdh8*3 Edk4 Cdjw Edk4,Cdh8*3 Edk4 Cdjw Edk4 Cdh8 Ef44 Cbx8 Edk4 Cdh8 Edxg Cavw Eg5g Cd3w Edms Cb18 Eg04 Cayk Eg2s Cb98 Eg84 Cad8 Eglg Cavw Eg2s Cbek,Efk4*2 Cbek Eg2s Cdh8 Eaw4 Cg2k Ebes Cfjw Eeis Cavw,Eg2s*2 Cavw Eglg,Cad8*2 Eglg Ccyk Ecys,Cdzw*2 Edhg Ccfw,Eeis*3 Ccyk,Ee04*2 Ccyk Eeis,Ccfw*2 Eeis Ccyk,Ee04*3 Ccyk Eeis Dnw 36x6dzj|<-03>3",
  "America/Atikokan America/Coral_Harbour|3r3s3t3u3v34|2-1353b18 1c5efx8 Ceik Bgh6k D10w8 E2n0c F3fk|EST5",
  "America/Bahia|3w3637|2-t85kv8 199kaf8 @3 @25 @72 B6idg C9uk 2dikrfj|<-03>3",
  "America/Bahia_Banderas|3x3y3t3z3y3s3t|@45 E7k7w D14jsc Ef18,Dbxg*3 @24 Fbxg Cfjs Fbes,Cfjw*2 Fbxg,Cf18*3 Fbxg Cfjw,Fbes*2 Cfjw Fbxg,Cf18*2 @141|CST6",
  "America/Barbados|404132324241|3-ug8iaj 1fzq06j C9xg Bi2k C9c4 Eg58 Cbc4 Fom5c D8ak Feis,Dcfw*2 Ff1g Dbp8|AST4",
  "America/Belem|433637|2-t85j0s 199k8ks @3 @58 2q2ha3j|<-03>3",
  "America/Belize|44453t3u3v3s|2-u52ic0 13edkc0 C9by Bhmq C9um,Bh42*2 C9um Bhmq,C9by*2 Bhmq C9um,Bh42*3 C9um Bhmq,C9by*2 Bhmq C9um,Bh42*2 C9um Bhmq,C9by*3 Bhmq C9um,Bh42*2 C9um Bhmq,C9by*2 Bhmq C9um D9uq E2cpw C94o B1cqs C9um,Bh42*2 C9um Bhmq,C9by*2 Bhmq C9um,Bh42*3 C9um Bhmq,C9by*2 Bhmq C9um,Bh42*2 C9um Bhmq,C9by*3 Bhmq C9um,Bh42*2 C9um Bhmq C9by F4dc2 C4vw F6nk4 C458|CST6",
  "America/Blanc-Sablon|4641324748|2-18vs838 1hw37f8 Ceik Dhi2s E2n0k C3fc|AST4",
  "America/Boa_Vista|493b3a|2-t85grk 199k93k @3 @58 B8r9g Cavw Bglg Cik 2jg3pzj|<-04>4",
  "America/Bogota|4a4b4c4d|1-18s2sy8 Dn2g0 214f1hi8 Dkqk 3nghsjj|<-05>5",
  "America/Boise|4e4f4g4g4h4i3y3z|D-1spxs @56 G2nxg Ee36k F2n08 G3fo Hg7us Gdh8,Hdhg*4 Gdzw Hdhg,Gdh8*2 H79g Gjp8 H8tg @124 @11 @15|MST7MDT,M3.2.0,M11.1.0",
  "America/Cambridge_Bay|4j4h4i3y3z3s3t343z3y|D-11ktc Bgm6c C2n08 D3fo Ejz6s Ddh8,Edhg*4 Ddzw Ecys Ddzw Edhg,Ddh8*4 @71 Gfjw Fbeo Hfjw Gig Eawg @57 E9us Dhmk,E9c4*5 Dhmk|MST7MDT,M3.2.0,M11.1.0",
  "America/Campo_Grande|4k3b3a|2-t85hvw 199ka7w @3 @25 @72 Bi5g C8t8 Bjc4 @43 Bj6s C7rw 29vi5zj|<-04>4",
  "America/Cancun|4l3t343s3t4m3s34|B-102nc C192w8 Erp0 D9yoc Ef18 Dbxg Cf18 Fbxc D8t8 E684 Dbxg @24 @133 Dbxg,Ef18*2 C79g|EST5",
  "America/Caracas|4n4o3o3a|1-15r0wxs 2bjfjzw 3rlo83w Cw9my D6b40 3bc2g7j|<-04>4",
  "America/Cayenne|4p3a37|1-uj7yb4 2tcw6r4 210ovsjj|<-03>3",
  "America/Cayman|4q4r34|1-15r0u9g 2biv5te|EST5",
  "America/Chicago US/Central|4s3s3t3t343u3v3t|D-1spy0 @56 Bh44 Cad8 Baw4 Cg2k Bdhg @34 @117 Ebes Cj6k Bbxg @117 @76 @117 F9xg G2n0c C3fk Bfk4,Cbek*4 @76 Cbek,Bfk4*4 Cdzw @109 Bdhg,Cdh8*4 Bdhg @27 @29 @0|CST6CDT,M3.2.0,M11.1.0",
  "America/Chihuahua|4t3y3t3z3y3s3z3t|@45 @108 Dbxg @24 @33 Dbxg Efjw Dbes Cfjw|CST6",
  "America/Ciudad_Juarez|4u3y3t3z3y3s3z|@45 @108 Dbxg @24 Dadg @67 Ehmk D9c4 Ch3w E2ag D7kc Ehmk,D9c4*3 Ehmk @118 Ehmk,D9c4*5 Ehmk|MST7MDT,M3.2.0,M11.1.0",
  "America/Costa_Rica|4v4w3s3t|1-15r0trn Dnbpc 2ubtl3n D798 Cjpg D798 C7zpg Dc2k Cew4 D47w|CST6",
  "America/Coyhaique|4x4y4d3a4c3b3a37|1-15r0vzk 2ag6l2t @21 G19mk F6qs,Gk7w*2 F6qs Ghmk Fbes,Gfjw*3 Fbxg Gf18 Fbes Gg2k Fbes Heak 76p5hzj|<-03>3",
  "America/Creston|4z3y4g3y|1-18vrx38 2h39xv8 B1944|MST7",
  "America/Cuiaba|503b3a|2-t85hm4 199k9y4 @3 @25 @72 B1aas @43 Bj6s C7rw 29vi5zj|<-04>4",
  "America/Curacao America/Kralendijk America/Lower_Princes|513o32|1-u7lckd 2rlo7qd|AST4",
  "America/Danmarkshavn|523737363601|1-rvusjk 4x8nx3k Ccy8 Ddhc,Cdhc*3 Ddhc @97 F7c8|GMT0",
  "America/Dawson|53542y5556574g4f3y|2-1079suk 197l62k @130 G6080 H4vs4 Gdh8,Hdhg*2 Gdzw @11 Ihmc|MST7",
  "America/Dawson_Creek|584f4g595a3y|2-18vrweg 1hw36ug @122 @34 Cdh8,Bdhg*3 @27 Bdhg F918|MST7",
  "America/Denver America/Shiprock Navajo US/Mountain|5b3z3y3y4h4i|D-1spxw Bpto8 Cfjw,Bbes*2 Cg2k Baw4 C458 Efklg F2n08 C3fo Bepes @27 @29 @0|MST7MDT,M3.2.0,M11.1.0",
  "America/Detroit US/Michigan|5c3t345d5e4m|1-xx8dyd 25eraud Dk3h8 E2n0g C3fg F1xhg Cbek 59rlbxo 271s2c Fdhg Cdh8 F3dus Cdh8 F56s Clrw Fdhg Cdh8 Fdhg Cdzw Fcys Cdzw @94 Cdzw Fdhg,Cdh8*3 Fbxg Cf18 Fbxg Cfjw,Fbes*2 @50 Fbxg Cfjw,Fbes*2 Cfjw F9us,Chmk,F9c4,Chmk,F9c4,Chmk*2 F9c4,Chmk*3 @127 @127|EST5EDT,M3.2.0,M11.1.0",
  "America/Dominica|5f32|1-uj7wl0|AST4",
  "America/Edmonton America/Yellowknife Canada/Mountain|5g3z3y4h4i|2-x1yazk 1629ink Ceik Bcg4 C398 Boqs Cdzw Bcys Cbek @76 Cbek Ddstg E2n08 C3fo B16is Cbek Bih9g Cdh8,Bdhg*4 @0|MST7MDT,M3.2.0,M11.1.0",
  "America/Eirunepe|5h4c4d3a4d|2-t85f28 199ka68 @3 @58 B4a04 C9bw Das04 C41jw 2cmiwjj|<-05>5",
  "America/El_Salvador|5i3s3t|2-pkm4tc 1ymao5c Cavw Bg2s Cavw|CST6",
  "America/Ensenada America/Santa_Isabel America/Tijuana Mexico/BajaNorte|5j3y4g3y4f595a4g|B-102n8 C1i2o D2l1g C2kvw Ea5g Cdh8 F7xus G2hj0 C6u8 E1slg Cl18 Eyys Cat8 Eg30 Cbek Efk4 Cbek Efk0,Cbeo*3 Eg2o Cbeo,Efk0*4 Cbeo Eg2o Caw0 Eg2o Cdhc,Edhc*3 Ce00 Ecyo Ce00 Edhg,Cdh8*4 Edhg Cdzw Edhg,Cdh8*2 E56s Clrw E8tg Ci58 @47 Ebxg Cfjw,Ebes*3 Cfjw Ebxg,Cf18*2 Eadg Chmk,E9c4*5 Chmk @82|PST8PDT,M3.2.0,M11.1.0",
  "America/Fort_Nelson|5k4f4g595a3y|2-18vrvy1 1hw36e1 @122 @34 Cdh8,Bdhg*3 @27 Bdhg,Cdh8*4 Bdhg @9 Cfjw,Bbes*2 @68 Cfjw B9us,Chmk,B9c4,Chmk,B9c4,Chmk*2 B9c4,Chmk*2 F9c4|MST7",
  "America/Fort_Wayne America/Indiana/Indianapolis America/Indianapolis US/East-Indiana|5l3s3t3t3u3v344m|D-1spy0 @56 Bg9xg C798 E9xg F2n0c C3fk Bfk4,Cbek*4 @76 Cbek,Bfk4*3 Cbek Gfk4 C1tuk Gfk4 H89mk Gdh8 Hdhg Gdh8 Hqmqs @65 @15|EST5EDT,M3.2.0,M11.1.0",
  "America/Fortaleza|5m3637|2-t85kvc 199kafc @3 @58 @99 B78tg Cavw Bglg C118 Bqg4 C9bw 2iqwe3j|<-03>3",
  "America/Glace_Bay|5n41324748|2-z94kwc 189fk8c Ceik Dhi2s E2n0k C3fc B5otg Cbek Bdyys Cdh8,Bdhg*4 @0|AST4ADT,M3.2.0,M11.1.0",
  "America/Godthab America/Nuuk|5o373736365p5q|1-rvumf4 4x8nqz4 Ccy8 Ddhc,Cdhc*3 Ddhc @97 De00 Cfk0,Dbeo*3 Cg2o,Daw0*2 Cg2o Dbeo,Cfk0*2 Dbeo Cg2o,Daw0*3 Cg2o Dbeo,Cfk0*2 Dbeo Cg2o,Daw0*2 @100 Faw0 Grhc Ffk0,Gbeo*3 @103 @62 54ffjj|<-02>2<-01>,M3.5.0/-1,M10.5.0/0",
  "America/Goose_Bay|5r5s5t5u5v5w5x41325y41|1-18vs7h8 2hw35go Beik Dccak 4kzjyk Davw,Eg2s*2 Davw Eglg Dad8 Eglg Davw Eg2s Davw Gg2s F2ga6 D3fa Eglg Davw,Eg2s*3 Davw Eglg Davw Ef1g Dbek,Efk4*4 Dbek Eg2s Dbek,Efk4*4 Ddzw Edhg,Ddh8*4 Edhg Ddzw Ia04 H2yq Idzw Hdhg,Idh8*4 Hdhg Idzw Hdhg,Idh8*4 Hdhg Idzw Hcys Idzw Hdhg,Idh8*4 Hdhg Idzw Hcys Idzw Hdhg,Idh8*3 78a2lo If18 Jbxg Ifjs Hbew Ifjw Hbes @77 Ifjw H9us Ihmk,H9c4*2 Ihmk H9us Ihmk H9c4 8c8tec H9c4,Ihmk*4 @83|AST4ADT,M3.2.0,M11.1.0",
  "America/Grand_Turk|5z4r344m3234|1-15r0w5s 2biv7pq 3z3brw2 Cdh8,Ddhg*3 Cdzw Dcys Cdzw Ddhg,Cdh8*3 Dbxg Cf18 @54 D9c4,Chmk*2 E9c4 D29eo Chmk,D9c4*2 @59|EST5EDT,M3.2.0,M11.1.0",
  "America/Grenada|6032|1-uj7wkc|AST4",
  "America/Guadeloupe|6132|1-ukehxs|AST4",
  "America/Guatemala|623s3t|2-qqqskk 1ss0akk C6qk B6xus C96k B5mw4 Ccfw Bb084 Cbek|CST6",
  "America/Guayaquil|63644c4d|1-15r0ujs 3le9mf4 2wb620o D53w 3nglhvj|<-05>5",
  "America/Guyana|653a66373a|1-uhmik9 21va8c9 D19enz Bciqp 1nwp4jj|<-04>4",
  "America/Halifax Canada/Atlantic|6741324748|2-z94k80 1777go0 Cdjw B15ho Ceik B15h8 C8ak Biis C918 Bhk4 C9h8 Bi04 C8yk Bi04 C9x8 Bh1g Cayk Bh1g C8vw Bh1g Cayk Bh1g C8t8 Bi5g C8fw Biis C9ek Bhk4 Cafw Bg04 Cayk Bg04 Cbh8 Bh1g C8t8 Bj6s C8vw Bi5g C7rw Bh1g Cayk Bg04 Cayk Bi2s C8vw Bgis Cayk Bg04 Cayk D9v0 E2n0k C3fc Bfk4,Cbek*4 B171g Cbek,Bfk4*3 Cbek B171g Cbek,Bfk4*3 Cbek B1y04 Cdh8,Bdhg*3 @27 Bdhg,Cdh8*4 Bdhg @0|AST4ADT,M3.2.0,M11.1.0",
  "America/Havana Cuba|68696a6b6b6a|1-15r0u2w 3ijto08 21icfyo D918 C8r1g D6qk Ck84 D798 Ck84 D6qk C225g D6qk Ck84 D6qk Ce39g D8yk Chus D9bw Cdxg Dbh8 Cg2s Davw Ch44 Ddh8,Cdhg*2 Ddzw Cdhg Dbx8 Cf1g Dbzw Ceys Dc2k Cew4 Ddh8 Cdhg Ddzw Ccys Ddzw Ce04 Dbek Cbxg Dfjw Cbes Dfjw Cfk4,Dbek*3 Cfk4 Dbx8 Cf1g Dbx8 Cbes,Dfjw*2 Cbxg,Df18*2 Ccys Deik Ccys Ee00,Ccyo*4 Ee00 Cdhc Edhc Cdhc Ee00 Fcg0 Efk0 Fbeo Eg2o Fbeo,Efk0*2 Fbxc,Ef1c*2 Fbeo E1y00 F9uo Eh40 Fadc Eglc F9uo Eh40,Fadc*2 Ehmo Fadc Eg2o F9c0,Ehmo*3 F9uo Ehmo,F9c0*4 @147 Ehmo,F9c0*4 Ehmo F9uo Ehmo,F9c0*5 Ehmo|CST5CDT,M3.2.0/0,M11.1.0/1",
  "America/Hermosillo|6c3y3t3z3y|@45 E7k7w D14jsc Ef18,Dbxg*2 Ef18|MST7",
  "America/Indiana/Knox America/Knox_IN US/Indiana-Starke|6d3s3t3u3v3t343t|@31 B16is Cbek,Bfk4*2 Cbek @76 @134 Cdh8 Bdhg Cbek,Bfk4*2 Cdh8 Bdhg Cdzw Bdhg Cdh8 Gdhg C14fw B2mw4 Cdh8,Bdhg*4 Cdzw @29 @27 @112 Bbxg Gf18 Baug0 Cfk0 @13 Chmk,B9c4*5 Chmk|CST6CDT,M3.2.0,M11.1.0",
  "America/Indiana/Marengo|6e3s3t3u3v3t344m|@31 B46w4 Cbek B1xhg @117 Bg2s Cbek,Bfk4*4 Cbek Gg2s H607w Gdh8,Hdhg*2 @148 Gi58 Hmves @65 @15|EST5EDT,M3.2.0,M11.1.0",
  "America/Indiana/Petersburg|6f3s3t3u3v3t344m|@31 B7798 Caw4 Bg2s @70 Cdh8,Bdhg*3 Cdh8 Gdhg C14yk @109 @29 Cdzw Bcys Gdzw Blcyo Cfk0 B9us Ghmk H9c0 Ghmk H9c4 @15 @128|EST5EDT,M3.2.0,M11.1.0",
  "America/Indiana/Tell_City|6g3s3t3u3v3t344m3s3t|@31 B7798 Caw4 Bg2s @70 Cdh8,Bdhg*2 Cdh8 Gdhg C2mvw Bdhg Cdh8 Hdhg Gdh4 @139 @13 Chmk,B9c4*5 Chmk|CST6CDT,M3.2.0,M11.1.0",
  "America/Indiana/Vevay|6h3s3t3u3v3t344m|@31 G6fs4 Hb9zw Gdh8,Hdhg*2 Gdzw Hdhg Gdh8 Hp4as @65 @15|EST5EDT,M3.2.0,M11.1.0",
  "America/Indiana/Vincennes|6i3s3t3u3v3t344m|@31 Bfk4 Cbek B4xus @117 Bg2k Caw4 Bg2s @134 Cavw Bg2s Cdh8 Bdhg Cdh8 Gdhg H3rbw Gdh8 @139 B9us Ghmk H9c0 Ghmk H9c4 @15 @128|EST5EDT,M3.2.0,M11.1.0",
  "America/Indiana/Winamac|6j3s3t3u3v3t344m|@31 Bfk4,Cbek*4 @76 @134 Cdh8 Bdhg Cbek,Bfk4*3 Cbek Gg2s H607w Gdh8 @139 H9us Ghmg H9c4,Ghmk*2 H9us Ghmk,H9c4*5 Ghmk H9us Ghmk,H9c4*4 @15|EST5EDT,M3.2.0,M11.1.0",
  "America/Inuvik|4j4f4g3y3z|C-crxc Beix4 Cdh8,Bdhg*4 Cdzw Bcys Cdzw Bdhg Cdh8 Edhg Ddh4 Edhg,Ddh8*2 @71 Dfjw,Ebes*2 @57 E9us Dhmk,E9c4*5 Dhmk|MST7MDT,M3.2.0,M11.1.0",
  "America/Iqaluit America/Pangnirtung|4j5e344m5d3t3s4m34|E-kluo B2a7w C3fg Djz6s Cdh8,Ddhg*4 @125 Ddhg,Cdh8*3 Dbxg Cf18 Dbxg Cfjw,Dbes*2 Cfjw Dbxg,Cf18*2 Dbxg Cfjw,Dbes*2 Cfjw Dbxg,Cf18*3 Dbxg Ffjw Gbew Cfjw Dbeo Cfjw Dbxg,Cf18*2 Dbxg Cfjw,Dbes*2 Cfjw D9us,Chmk,D9c4,Chmk,D9c4,Chmk*2 D9c4,Chmk*3 D9us Chmk,D9c4*4 @59|EST5EDT,M3.2.0,M11.1.0",
  "America/Jamaica Jamaica|6k4r344m|1-15r0v42 Cgleo 3wbl182 Clrw D8tg Ci58 Ddhg @125|EST5",
  "America/Juneau|6l6m4g595a4f542y2z30|1-1hc7qjz 2h4yu44 3ln707v E2n04 C3fs @37 Fdhg,Cdh8*2 Gdhg Cdhc Fdhc Cdh8 Fdhg Cdzw Fcys Hdzw J2ao Ib6w @7 Jhmk|AKST9AKDT,M3.2.0,M11.1.0",
  "America/Kentucky/Louisville America/Louisville|6n3s3t3t3u3v344m|D-1spy0 @56 B14ys C93w Berpg Cbek E9xg F2n0c C3fk 1ast9o 21sw2c B2xs4 Cavw Bg2s @70 Cdh8,Bdhg*4 Cdzw Bdhg G67w H531c Gdh8,Hdhg*3 @148 @124 @11 @15|EST5EDT,M3.2.0,M11.1.0",
  "America/Kentucky/Monticello|6o3s3t3u3v3t4m34|@31 Bgytg Cdh8,Bdhg*3 Cdzw @29 @9 Cfjw Bbes Hfjw Gbeo Hfjw Gbxg,Hf18*2 Gbxg @22|EST5EDT,M3.2.0,M11.1.0",
  "America/La_Paz|6p6q6r3a|1-15r0wpo Cveg0 Dbp8 31j8fb57|<-04>4",
  "America/Lima|6s6t4c4d|1-15r0v2c 39ov9co 2fcxjlo D6nw Cd44 Ddh8 Cdhg Ddh8 Cyeg4 D6nw Ckdg D6nw C22is D6nw C2tk4 D6nw 3muzpvj|<-05>5",
  "America/Los_Angeles US/Pacific|6u4f4g595a4g|F-1spxs @56 Dgr44 E2n04 C3fs 11a3c5o 2f2iic Bzuo Caw0 Bg2o Cbeo,Bfk0*4 Cbeo Bg2o Cbeo,Bfk0*4 Cbeo Bg2o Caw0 Bg2o Cdhc,Bdhc*3 Ce00 Bcyo Ce00 @109 @29 @0|PST8PDT,M3.2.0,M11.1.0",
  "America/Maceio|6v3637|2-t85ldw 199kaxw @3 @58 @99 B49hg C8t8 B2qis Cavw Bglg C118 Bqg4 C9bw 2iqwe3j|<-03>3",
  "America/Managua|6w6x3t343s3t|1-15r0tcs 2n7jmo4 3ka1i0o C1cl8 E32g4 C7bw Ejms C7bw D8nsk Cjrg D7c4 C307w E67s4 Ccyk Efkc Cbeg|CST6",
  "America/Manaus Brazil/West|6y3b3a|2-t85gvw 199k97w @3 @58 B4a04 C9bw 2mx1vbj|<-04>4",
  "America/Marigot America/Port_of_Spain America/St_Barthelemy|6z32|1-u6m79w|AST4",
  "America/Martinique|70713241|1-15r0y0s Cg0yo 3zz5x4s Ccyk|AST4",
  "America/Matamoros|723t3s3t|B-102nc C1dsiw Dfjw C5l6s Df18,Cbxg*3 Dfjw Cbes Dfjw Ce04 Davw Ce04 Df18,Cbxg*2 Dfjw,Cbes*3 Dfjw Cbxg,Df18*2 Cadg Dhmk,C9c4*5 Dhmk C9us Dhmk,C9c4*4 @60|CST6CDT,M3.2.0,M11.1.0",
  "America/Mazatlan Mexico/BajaSur|733y3t3z3y|@45 E7k7w D14jsc Ef18,Dbxg*3 @24 @33 Dbxg Efjw Dbes Efjw|MST7",
  "America/Menominee|743s3t3u3v343t|2-17zjvrx 1gz53bx Cfjw Bbes Cfjw Dgr44 E2n0c C3fk Bfk4 Cbek Bepes Cdzw F1ves B30d8 Cdhc B56s Clrw B8tg Ci58 Bdhg @0|CST6CDT,M3.2.0,M11.1.0",
  "America/Merida|753t343s3t|B-102nc C192w8 En18 Da3c4 Ef18,Dbxg*3 @24 @33 Dbxg Efjw Dbes Efjw|CST6",
  "America/Metlakatla|76774g595a4f302z|1-1hc7qjz 2h4ytl5 3ln70qu E2n04 C3fs @37 @94 Cdzw Go1xg H9us Ghmk,H9c4*2 Chmk G5pc H3ms Ghmk H9c4 @15|AKST9AKDT,M3.2.0,M11.1.0",
  "America/Mexico_City Mexico/General|783y3t3z3y3s3u3t|@45 F5598 Cad8 F13hg C8d8 G219g Ca58 F4cis Ccfw Fyc5o @113 Cfjw,Fbes*3 @50 @141|CST6",
  "America/Miquelon|79323736|1-uk1k9k 2zy4wpk D57es Cf18 @54 D9c4,Chmk*3 D9us Chmk,D9c4*4 @59 2428jj|<-03>3<-02>,M3.2.0,M11.1.0",
  "America/Moncton|7a3441324748|1-18wys04 39nu9w4 Cbwas Deik Cazmo D6qk,Ck84*5 D6qk Cjms D8t8 Chpg D998 Cgo4 Dat8 Ea08 F2n0k D3fc Cfk4,Dbek*4 Cg2s Davw Cg2s Dbek,Cfk4*4 Dbek Cg2s Dbek Cfk4 Ddh8,Cdhg*3 Ddzw Cdhg,Ddh8*4 Cdhg Ddzw Ccys Ddzw Cdhg,Ddh8*4 Cdhg Ddzw Cdhg Ddh8 C14g4 Ddh8,Cdhg*2 Ddzw Ccys Ddzw Cdhg,Ddh8*4 Cdhg Ddzw Ccys Ddzw Cdhg,Ddh8*3 Cbxg Df18 Cbxg Dfjw,Cbes*2 Dfjw Cbxg,Df18*2 28a2lo Dfjw,Cbes*2 Dfjw Cbxg,Df18*3 Cbxg Dfjw,Cbes*2 Dfjw Cbxg,Df18*2 Cbxg Dfjw,Cbes*2 Dfjw 26uiyc Dhmk,C9c4*2 @60 C9us Dhmk,C9c4*4 Dhmk C9us Dhmk,C9c4*5 Dhmk|AST4ADT,M3.2.0,M11.1.0",
  "America/Monterrey|7b3y3t3z3y3s3t|B-102nc C4344 E2kvw Dcas Ebek Cdk4 F1639g Cfjw F5l6s @113 Cfjw,Fbes*3 @50 @141|CST6",
  "America/Montevideo|7c7d3a7e3b377f367g36|1-w4mll9 C8xpc 41s74p9 Ddjw Edk2,Ddha*2 E5p1e Dbem,Efk2*3 Dbem Eg2q,Davy*2 Ee02 Ddha Efk2 Dbem E96q G111a F6ny Gc65e Fcym H4o2 F3mk H3tes Fcyk G205g Fdxa H11s2 F3p8 H1eas F67w I14g4 G456 Fcys H8aq F798 H1ao4 F5p8 Hk84 F6qk Hl9g F5p8 H45g Fnuk H5tk4 F5mk Hl9g F67w Hhms F8t8 Hhms F9uk Hhms F9bw Hh44 F9uk H8oo4 Fe04 Heis Fbek Hf1g Fbx8 Hfk4,Fbek*2 Hfk4 Fbx8,Hf1g*2 Fbx8 Hfk4,Fbek*3 5bxogjj|<-03>3",
  "America/Montreal America/Nipigon America/Thunder_Bay America/Toronto Canada/Eastern|7h4m345d5e|2-1353das 1c5efes Ceik Bbh6 Cfha Be0c Cavo Bh4c C93w Bhus C9bw Bhms C9bw Bh44 Cad8,Bglg*3 Cavw Bg2s Cbek,Bfk4*3 Cbek @76 Cbek,Bfk4*5 Cbek @76 D1cao E2n0g C3fg Bfk4,Cbek*3 Bfk4 Cg2k Bbes Cfjw Bbes @70 Cbek Bfk4 Cdh8,Bdhg*3 Cdzw Bdhg,Cdh8*4 Bdhg @27 Bdhg,Cdh8*4 Bdhg @0|EST5EDT,M3.2.0,M11.1.0",
  "America/Montserrat|7i32|1-uj7wfk|AST4",
  "America/Nassau|7j5d345e4m|2-u6m4c6 1fqrow6 C207w B2as Defc C4r8 Edx4c Cdh8 Edhg Cdzw Ecys Cdzw Edhg,Cdh8*4 Edhg Cdzw Edhg,Cdh8*4 @47 Ebxg Cfjw,Ebes*2 Cfjw E9us,Chmk,E9c4,Chmk,E9c4,Chmk*2 E9c4,Chmk*3 @82|EST5EDT,M3.2.0,M11.1.0",
  "America/New_York US/Eastern posixrules|7k4m34345d5e|D-1spy4 Bpto8 Cfjw,Bbes*2 Cg2k Bcys Cbek Bg2s @34 @70 Cavw Bg2s @117 E9xg F2n0g C3fg Bfk4,Cbek*4 @76 Cbek,Bfk4*4 Cdzw @109 Bdhg,Cdh8*4 Bdhg @27 @29 @0|EST5EDT,M3.2.0,M11.1.0",
  "America/Nome|7l7m2k2l2m2n2o2y2z30|1-1hc7qjz 2h4yzup 3ln72ta E2mzs C3g4 @41 Gcys Hdzw J2ac Ib6w @7 Jhmk|AKST9AKDT,M3.2.0,M11.1.0",
  "America/Noronha Brazil/DeNoronha|7n5q5p|2-t85lzw 199k8rw @3 @58 @99 B78tg Cavw Bglg Cik Bqys C9bw 2iqwgvj|<-02>2",
  "America/North_Dakota/Beulah|7o3z3y4h4i3y3s3t|F-1spxw @56 @93 @29 @9 Cfjw,Bbes*2 @68 Cfjw B9us Chmk,B9c4*2 Chmk B9us Hhmk G9c0 Hhmk,G9c4*4 Hhmk G9us Hhmk,G9c4*4 Hhmk G9us Hhmk,G9c4*5 Hhmk G9us Hhmk,G9c4*4 Hhmk G9us Hhmk,G9c4*5 Hhmk|CST6CDT,M3.2.0,M11.1.0",
  "America/North_Dakota/Center|7p3z3y4h4i3y3s3t|F-1spxw @56 @93 @29 @27 @112 Bbxg Cf18 Bbxg Hf18 Gbxc @101 @22|CST6CDT,M3.2.0,M11.1.0",
  "America/North_Dakota/New_Salem|7q3z3y4h4i3y3s3t|F-1spxw @56 @93 @29 @9 Cfjw,Bbes*2 Cfjw Bbxg Cf18 Bbxg Hf18 Gbxc @22|CST6CDT,M3.2.0,M11.1.0",
  "America/Ojinaga|7r3y3t3z3y3s3t|@45 @108 Dbxg @24 Dadg @67 Ehmk D9c4 Ch3w F9uo Chmk,F9c4*3 Chmk @127|CST6CDT,M3.2.0,M11.1.0",
  "America/Panama|7s7t34|1-15r0uls 29jvmqg|EST5",
  "America/Paramaribo|7u7v7w7e37|1-usj4g8 2cixc0c 35lydbk 4kcrm6c 4rtftxj|<-03>3",
  "America/Phoenix US/Arizona|7x3z3y4h3y|E-1spxw @56 Dgr44 2zjedo D6qs Cdjw 1bs6lmc Cdh8|MST7",
  "America/Por\x74-au-Prince|7y7z4m344m34|1-15r0vxs 3e4gmng 2ylcf6c Dcyk Cdhg,Ddh8*4 Ebxk Ffk0,Ebeo*2 Ffk0 Ebxc,Ff1c*2 Ebxc Ffk0,Ebeo*2 Ffk0 Ebxc,Ff1c*2 C5l6k Dfjw Cbes Dfjw C4170 Dhmk,C9c4*3 Dhmk C10tg Dhmk,C9c4*3 @60|EST5EDT,M3.2.0,M11.1.0",
  "America/Porto_Acre America/Rio_Branco Brazil/Acre|804c4d3a4d|2-t85fg0 199kak0 @3 @58 Dfbc4 C41jw 2cmiwjj|<-05>5",
  "America/Porto_Velho|813b3a|2-t85g60 199k8i0 @3 @58 2q2h7bj|<-04>4",
  "America/Puerto_Rico|82324847|1-10xhp3b 3mhp1jb C2gvg B3fc|AST4",
  "America/Punta_Arenas|834y4d3a4c3b3a37|1-15r0w78 2ag6lah @21 G19mk F6qs H8ak 7b0wwnj|<-03>3",
  "America/Rainy_River America/Winnipeg Canada/Central|843s3t3u3v3s3t|2-171bfcc 1f0j80c Cavw B16j0 Ceik Bdxxg C9uk D3aas E2n0c C3fk Bglg Cbek @135 Bg5g Cb98 Bfms @70 Cbek,Bfk4*3 Cdh8 Bdhg Cbek B1y04 Cavw F1y04 Ge00 Fdhc,Gdhc*4 Fdhc Ge00 Fdhc,Gdhc*4 Fdhc Ge00 Fcyo Ge00 Fdhc,Gdhc*4 Fdhc Ge00 Fcyo Ge00 Fdhc,Gdhc*3 Fbxc Gf1c Fbxc Gfk0,Fbeo*2 Gfk0 Fbxc,Gf1c*2 Fbxc Gfk0,Fbeo*2 Gfk0 Fbxc,Gf1c*3 Fbxc Gfk0,Fbeo*2 Gfk0 Fbxc,Gf1c*2 Fbxc Gfk0 Fbeo Gfk0 Bbeo Cfjw @13 Chmk,B9c4*5 Chmk|CST6CDT,M3.2.0,M11.1.0",
  "America/Rankin_Inlet|4j3s3t343t|C-9rpc Bbiow Cdh8,Bdhg*4 @9 Cfjw Bbes Dfjw Bbes @68 Cfjw @13 Chmk,B9c4*5 Chmk|CST6CDT,M3.2.0,M11.1.0",
  "America/Recife|853637|2-t85ljc 199kb3c @3 @58 @99 B78tg Cavw Bglg Cik Bqys C9bw 2iqwe3j|<-03>3",
  "America/Regina Canada/Saskatchewan|863z3y4h4i3t|2-xkq9yc 16l1hmc Ceik B8nmk Cbek,Bfk4*2 Cbek @76 Cbek B1vxg Cdh8 Bdhg Ccyk Be04,Cdh8*2 Bdhg Cdh8 D8wc E2n08 C3fo Beis Cdh8 @135 @76 @70 @117 B16is Cdh8 Fdhg|CST6",
  "America/Resolute|4j3s3t343t|C-gsdc Bijcw Cdh8,Bdhg*4 @9 Cfjw Bbes Dfjw Bbes @68 Dfjw @13 Chmk,B9c4*5 Chmk|CST6CDT,M3.2.0,M11.1.0",
  "America/Santarem|873b3a37|2-t85hvc 199ka7c @3 @58 Dfbc4 3fflsjj|<-03>3",
  "America/Santiago Chile/Continental|884y4d3a4c3b3b3a|1-15r0w8r Cf1pc 13dlssr 3157b79 1f4e0r 449hzb9 2aye0r Ebc4,Cfp8*3 Ebc4 Cfrw Dbc4 C7bp8 D4is F2yyk E3bw Cfxg D3s0 Gg4g0 Havw Ghms H9bw Geis Hbek Gfk4 Hbek Gg2s Havw Gf1g Hbx8 Gg2s Havw Gg2s Hbek,Gfk4*2 Hbek Gg2s,Havw*2 Gg2s Hbek,Gfk4*3 Hbek Gg2s,Havw*2 Gg2s Hdh8 Gdhg Hbek Gfk4 Hbek Gg2s Havw Ge04 Hcyk Gg2s Hbek,Gfk4*3 Hbek Gg2s Havw Gg2s Hcfw Geis Hbek Geis Hdzw Ge04 Hbek Gg2s,Havw*3 Gg2s Hbek,Gfk4*2 Hbek Gg2s Havw Gg2s Hcfw Geis Hbek Gfk4 Hcyk Ge04 Hfjw G7s4 Hinw G9c4 Hhmk G9us Hh3w G9us H19mk G6qs,Hk7w*2 G6qs Hhmk Gbes,Hfjw*3 Gbxg Hf18 Gbes Hg2k Gbes,Hfjw*4 Gbes Hg2k Gaw4 Hg2k Gbes,Hfjw*4 Gbes Hg2k Gaw4 Hg2k Gbes Hfjw Gbes 66xxvj|<-04>4<-03>,M9.1.6/24,M4.1.6/24",
  "America/Santo_Domingo|898a4m348b32|1-15r0we0 3mkixco 2hiw29c D8yk E1zxg D8qm Ei82 D6fy El1e D62m Ekw2 D67y Ekqq D6am Fko2 Djjms F2lc|AST4",
  "America/Sao_Paulo Brazil/East|8c3637|2-t85jd8 199k8x8 Cddc Bdpg Cdbw Bciys Ca2o Bgyo C8yk Bi2s C918 Bi2s C6nw B8004 C9mk Bow4 C4d8 Bi5g C6nw Bi5g C8vw Bi5g C8yk Bda5g C9uk Bglg @25 @72 Bi5g C8t8 Bjc4 @43 Bj6s C7rw 29vi8rj|<-03>3",
  "America/Scoresbysund|8d5p5q5p0i8e8e5q5p|1-rvurxk 2x8ntpk Dcyo Gdh4 Edh8 Fdhc,Edhc*2 @129 @63 Fbeo @30 @87 Eg2o Hbeo,Ifk0*3 Hbeo Ig2o,Haw0*2 Ig2o Hbeo,Ifk0*2 @79 84ffjj|<-02>2<-01>,M3.5.0/-1,M10.5.0/0",
  "America/Sitka|8f8g4g595a4f2y2z30|1-1hc7qjz Coofm 3ln701z E2n04 C3fs @37 @94 Gdzw I2ao Hb6w Idh8,Hdhg*2 Idh8 Hbxg If18 Hbxg Ifjw,Hbes*2 @77 Ifjw H9us,Ihmk,H9c4,Ihmk,H9c4,Ihmk*2 H9c4,Ihmk*3 @83|AKST9AKDT,M3.2.0,M11.1.0",
  "America/St_Johns Canada/Newfoundland|8h5t5s5v5u5w5x8i5v|2-18vs8wk Bp008 Cbzw Bfhg Ceik Be54 C7bw Bjk4 Cdh8 Bdhg Cdh8 Be04,Ccyk*4 Be04 Cdh8 Bdhg Cdh8 Be04,Ccyk*4 Be04 Cdh8 Be04,Ccyk*2 Eb9k 31wfuk Ecyk Deiw Eavw,Dg2s*2 Eavw Dglg Ead8 Dglg Eavw Dg2s Eavw Gg2s F2ga6 E3fa Dglg Eavw,Dg2s*3 Eavw Dglg Eavw Df1g Ebek,Dfk4*4 Ebek Dg2s Ebek,Dfk4*4 Edzw Ddhg,Edh8*4 Ddhg Edzw Dcys Edzw Ddhg,Edh8*4 Ddhg Edzw Ddhg,Edh8*4 Ddhg Edzw @114 38a2lo Ef18 Hbxg Efjs Dbew Efjw Dbes Efjw Dbxg,Ef18*2 @33 @133 D9us Ehmk,D9c4*2 Ehmk D9us Ehmk D9c4 4c8tec D9c4,Ehmk*4 @118 @67 Ehmk,D9c4*5 Ehmk|NST3:30NDT,M3.2.0,M11.1.0",
  "America/St_Kitts|8j32|1-u6m71w|AST4",
  "America/St_Lucia|8k8l32|1-15r0y1c Cgj40|AST4",
  "America/St_Thomas America/Virgin|8m32|1-uj7vz4|AST4",
  "America/St_Vincent|8n8o32|1-15r0xzs Cgj40|AST4",
  "America/Swift_Current|8p3z3y4h4i3t|2-xkq9d4 16l1h14 Ceik Dhi2s E2n08 C3fo Bfk4 Ccfw @135 B5pc4 Cdh8 B14g4 Cdh8 Bdhg Cbek Bg2s Cavw F7yqs|CST6",
  "America/Tegucigalpa|8q3s3t|2-pfzh6k 1yho0ik Cavw Bg2s Cavw Bd8is C6t8|CST6",
  "America/Thule|8r4132|2-rvuj9g 112yzilg Cdh8 Bdhg Cdh8 Be04 Cfjw,Bbes*2 Cfjw Bbxg,Cf18*3 Bbxg Cfjw,Bbes*2 @68 Cfjw @13 Chmk,B9c4*5 Chmk|AST4ADT,M3.2.0,M11.1.0",
  "America/Tortola|8s32|1-uj7w18|AST4",
  "America/Vancouver Canada/Pacific|8t4f4g595a|2-18vrvv8 1hw36b8 Ceik Dhi2s E2n04 C3fs Bfk4,Cbek*4 Bg2s @34 Cdh8,Bdhg*3 @27 Bdhg,Cdh8*4 Bdhg @0|PST8PDT,M3.2.0,M11.1.0",
  "America/Whitehorse Canada/Yukon|8u542y5556574g4f3y|2-1079tno 197l6vo @130 G8tc Han6s Gdh8,Hdhg*2 Gdzw @11 Ihmc|MST7",
  "America/Yakutat|8v8w2y5556542z30|1-1hc7qjz 2h4yv3i 3ln720h E2n00 C3fw @37 @94 Cdzw H2ak Gb6w Hdh8,Gdhg*2 Hdh8 Gbxg Hf18 Gbxg Hfjw,Gbes*2 Hfjw Gbxg,Hf18*2 Gbxg @101 @22|AKST9AKDT,M3.2.0,M11.1.0",
  "Antarctica/Casey|4j8x8y8x|B-r1c Cunoo Ba7o C18lo D8nw C3i7w B11es Cfkc Bbww Cewc Bbjo 2asw1o 189wyc,2ag5po*2 184lac 17rcf7j|<+08>-8",
  "Antarctica/Davis|4j8z908z|B-9qtc A5v0k B3724 Cule4 Dao4 C1858 D8o4 3dismrj|<+07>-7",
  "Antarctica/DumontDUrville|4j91|B-haao A3s6w B3lvs 116dxkzj|<+10>-10",
  "Antarctica/Macquarie|4j9293924j9392|B-1gqdc Ccpls Dcyo E1il4 Bls6g Feo1s Ddhc Ffk0 D9uo,Fh40*2 Dadc Fh40 D8tc Fi5c D9c0,Fhmo*3 D9uo Fhmo,D9c0*5 Fhmo Dbeo Fg2o Daw0 Fg2o D9c0,Fhmo*2 D9c0 Fh40 Daw0,Fglc*2 Dadc,Fglc*2 Dbeo Fe00,Dcyo*4 Fe00 Ddhc Fe00,Dcyo*4 Fbeo Dfk0 Feio Dcyo,Fe00*4 Ddhc Fdhc Dcyo Feio Ddhc,Fdhc*2 D14g0 Fdhc Ddhc Fe00 Ddhc,Fdhc*5 Ddhc Fe00 Ddhc,Fdhc*5 De00 Fdhc,Ddhc*5 Fe00 Ddhc,Fdhc*5 Ddhc Fe00 Ddhc,Fdhc*2|AEST-10AEDT,M10.1.0,M4.1.0/3",
  "Antarctica/Mawson|4j9490|B-bxpc C15ucw 2eqvo3j|<+05>-5",
  "Antarctica/McMurdo Antarctica/South_Pole|4j959696|D-aitc Be5o8 C8ao Bi5c C9uo Bhmo,C9c0*5 Bhmo C9uo Bhmo,C9c0*5 Bhmo C9uo Bhmo C9c0 Bg2o Cbxc,Bf1c*3 Ccg0,Beio*3 Ccg0 Bf1c,Cbxc*2 Bf1c Ccg0,Beio*2 Ccg0 Bf1c,Cbxc*2 Bf1c Ccg0,Beio*4 Ce00,Bcyo*4 Ce00 Bdhc Ce00,Bcyo*5 Ce00 Bdhc Ce00,Bcyo*5 Ceio Bcyo,Ce00*5 Bdhc Ce00,Bcyo*5 Ce00 Bdhc Ce00,Bcyo*2|NZST-12NZDT,M9.5.0,M4.1.0/3",
  "Antarctica/Palmer|4j3a3b36373b3a37|C-3r9c B4do Cgw4 Ba58 Cgw4 Bcik Cdhg Bdzw Cdhg Bdh8 Edhg D38d8 E798 B60g4 Fc04 Gbek Ffk4 Gbek Fg2s,Gavw*2 Fg2s Gdh8 Fdhg Gbek Ffk4 Gbek Fg2s Gavw Fe04 Gcyk Fg2s Gbek,Ffk4*3 Gbek Fg2s Gavw Fg2s Gcfw Feis Gbek Feis Gdzw Fe04 Gbek Fg2s,Gavw*3 Fg2s Gbek,Ffk4*2 Gbek Fg2s Gavw Fg2s Gcfw Feis Gbek Ffk4 Gcyk Fe04 Gfjw F7s4 Ginw F9c4 Ghmk F9us Gh3w F9us G19mk F6qs E8ak 4b0wwnj|<-03>3",
  "Antarctica/Rothera|4j37|B5740 1vwm8zj|<-03>3",
  "Antarctica/Syowa|4j97|B-9pmo 1169crnj|<+03>-3",
  "Antarctica/Troll|4j980z0z|Dqe2o B36s Cg2o,Baw0*2 Cg2o Bbeo,Cfk0*2 Bbeo Cg2o,Baw0*2 Cg2o Bbeo,Cfk0*3 Bbeo Cg2o,Baw0*2 Cg2o Bbeo,Cfk0*2 Bbeo Cg2o,Baw0*2 Cg2o Bbeo,Cfk0*3 Bbeo Cg2o,Baw0*2 Cg2o Bbeo,Cfk0*2 Bbeo Cg2o,Baw0*3 Cg2o Bbeo,Cfk0*2 24ffjj|<+00>0<+02>-2,M3.5.0/1,M10.5.0/3",
  "Antarctica/Vostok|4j8z90|B-91uo Ar5gk Bk8s Clw24 27cq9jj|<+05>-5",
  "Arctic/Longyearbyen Atlantic/Jan_Mayen Europe/Oslo|990d0e0e0d0d0e|2-1353tzo 1b5svbo C9p4 Bhxmo D1o8c Eaw0 De00 Edhc,Ddhc*2 Ea3xc De00 Edhc,Ddhc*4 Edhc De00 Eg2o Daw0 Faxk0 Gcyo Fdhc,Gdhc*3 Fdhc @1 Gg2o Fbeo,Gfk0*2|CET-1CEST,M3.5.0,M10.5.0/3",
  "Asia/Aden|9a97|1-afs0bu 119yc1bd|<+03>-3",
  "Asia/Almaty|9b909c94949c9d909c|1-nu1a90 337a0d0 @4 Eg2o Bej14 178xazj|<+05>-5",
  "Asia/Amman|9e0v0w0w0v97|2-kcrtbk 1m566fk C8nw Bfpg,Cbbw*2 Bfs4 Cdmk Bdes Cbbw Bfms Cbbw B4vxg Cdjw Bdpg Cdh8,Bdhg*2 Cdzw Bfs4 Cb6k Bf1g Cbx8 Bedg Cc2k Beis Ccyk Bdhg Cdh8 Bdhg Ccfw Bf1g Dbxc Bf1c Dcg0,Beio*2 Dcg0 El6o D6ao Edxc Ddk0 Edeo Ddk0 Bdhc Ddhc Bdhc Dfk0 Bbeo Df1c Bcg0 Ddhc Bdhc Dfk0,Bbeo*2 Dg2o,Baw0*2 Dg2o Bbeo Dfk0 Bbeo C1anw B79g Dg2o Baw0 Dg2o Bbeo,Dfk0*4 Bbeo Dg2o Baw0 Dg2o B8tc Fi5c 57y4ejj|<+03>-3",
  "Asia/Anadyr|9f9g9h9i9j9g9j9k8y9g|1-nu1sv8 3379zj8 C125uk Ddjw Edhg Bdk0 Edhg Bdjw Edk4 @14 @62 Hbeo Ig2s Faw0 5dzvtzj|<+12>-12",
  "Asia/Aqtau|9l9m90949d909d9n9m90|1-nu15b4 2379y74 D12jek Edh8 Cdk0 Edhg Cdjw Edk4 @78 Hdhc Idhg F8ao G56k Fdhc,Gdhc*2 Idhc Hdhg Idhc @106|<+05>-5",
  "Asia/Aqtobe|9o9m909d94909d9n9m9d90|1-nu16l4 2379zh4 D125uk @73 @14 Fg2o 5hc4zzj|<+05>-5",
  "Asia/Ashgabat Asia/Ashkhabad|9p9m9d90909d9n9m90|1-nu16t8 3379zp8 C125uk @19 Hdhg D8ao 3o0b7vj|<+05>-5",
  "Asia/Atyrau|9q9790949d909d9n9m90|1-nu15m8 237a1a8 D12jeg Edh8 Cdk0 Edhg Cdjw Edk4 @78 Hdhc Idhg F8ao G56k Fdhc,Gdhc*3 Fdhc Ge00 Ffk0,Gbeo*2 Ffk0 Hbeo Ig2s Haw0,Ig2o*2 Hbeo,Ifk0*2 Hbeo Fg2o 5hc4x7j|<+05>-5",
  "Asia/Baghdad|9r9s979t979t|1-15r1hk4 2em11c4 3xkn3w0 Cbbw Ddes Cdmk Ddk4 Cdjw Ddhg Edes Fdhc,Edhc*4 Fdhc Ee00 Fdk8 Edk0 Fdk0 Edk0,Fdhc*3 Edk0 Fdk0 Edk0,Fdhc*3 Edk0 Fdk0 Edk0,Fdhc*3 Edk0 Fdk0 Edk0,Fdhc*3 Edk0 4ftcjnj|<+03>-3",
  "Asia/Bahrain|9u9v9m97|1-eukpd8 21a1eb8 Dlcta 3y9703j|<+03>-3",
  "Asia/Baku|9w979n9m9m9n9t979n9m|1-nu158c 3h4tkwc Ci3mk @19 Hdhg Gdhc Edhc I2mw8 Jfk0 Cbek Dfk0,Cbeo*2 Dg2o,Caw0*2 Dg2o Cbeo,Dfk0*2 Cbeo Dg2o,Caw0*3 Dg2o Cbeo,Dfk0*2 Cbeo Dg2o,Caw0*2 Dg2o Cbeo,Dfk0*3 3blsznj|<+04>-4",
  "Asia/Bangkok|9x9y8z|1-1ayyla4 Cu8w0 21phce9n|<+07>-7",
  "Asia/Barnaul|9z94a08z8za09c949c8z|1-q4ljic 35hu6uc C125uk @19 @95 I4no H8ts @20 @90 E12dg 4bdw43j|<+07>-7",
  "Asia/Beirut|a10v0w|2-1ayy98o 1kzyuco Cfmk Bbus Cdjw Bcw4 Ceik Beis Cavw Bp9pg Cbbw,Bfpg*2 Cbbw Bfs4 Cbbw Bfpg Cbbw B825g C7h8 Bfpg,Cbbw*3 Bfs4 Cbbw Bfpg Cbbw Bfms Cbbw B4744 Ccfw,Belg*3 Ccfw Bgys Ca58 Bf9g Cbrw Belg,Ccfw*2 Beo4 Cbjw Bcys Cdh8,Bdhg*2 Cdh8 Be04 Cdh8,Bdhg*3 Cg2k,Baw4*2 Cg2k Bbes,Cfjw*2 Bbes Cg2k,Baw4*3 Cg2k Bbes,Cfjw*2 @119 Cg2k Bbes,Cfjw*2 @119 Cg2k Bbes,Cfjw*2 Bbes Cg2k,Baw4*3 Cg2k Bbes,Cfjw*2|EET-2EEST,M3.5.0/0,M10.5.0/0",
  "Asia/Bishkek|a2909c94949c9d9d|1-nu19tc 3379zxc C125uk @19 Bbc0 Ggnw Bcfw,Geis*4 Bcyk Hdhq Bfjw,Hbes*2 Bg2k,Haw4*2 Bg2k Hbes,Bfjw*2 Hbes Bg2k Haw4 Da7m 3gxhgbj|<+06>-6",
  "Asia/Brunei|a3a48x|1-mvofy4 23khxs4 21itqj5j|<+08>-8",
  "Asia/Calcutta Asia/Kolkata|a5a6a7a8a9|1-1oaa314 283glc8 3isc6tm 4innm9a Dgqk E82s D2cfw|IST-5:30",
  "Asia/Chita|aa8xabacacabad8x91abac|1-q4cfog 35hkxgg @4 @30 @92 H2oyk D12dk 3bdw9nj|<+09>-9",
  "Asia/Choibalsan Asia/Ulaanbaatar Asia/Ulan_Bator|ae8zad8x|1-xmcrsk 311sncck @74 Cdho Ddh0 3b4lbbj|<+08>-8",
  "Asia/Chongqing Asia/Chungking Asia/Harbin Asia/Shanghai PRC|afagah|2-100eztj 19jeyxj Ccnw Bfj6s C9x8 Bbc4 Ch6k B6o4 C2p18 Biw4 Caak Beis Cet8 Bdhg Cbbw Bfpg C1zw Brr9o C9uk Bfk4 Cbek @76 Cbek,Bfk4*2 Cbek|CST-8",
  "Asia/Colombo|aiajak9da9al94ak|1-1ayyhgc 2dkh6ns 3isle6k Ehpa C2ciu F1216k Gbem C745e 2gktuxj|<+0530>-5:30",
  "Asia/Dacca Asia/Dhaka|ama6alak949c|1-15r1q2s 2r080dw 3bmgyw C82s E6tmk F17dpa Eeg0 4en10fj|<+06>-6",
  "Asia/Damascus|an0v0w97|2-q3gk20 15k6q0 Ccfw,Beis*3 Ccyk Bsz9g Cbh8 Bfpg Cb98 Bfus Cbbw Bfpg Cb98 Bf9g Cbuk Bfpg Cbbw Bfs4 Cbbw,Bfpg*3 Cbbw Bfs4 Cbbw,Bfpg*3 Cbbw Bfs4 Cbbw Bfpg C93w Bhxg C93w B3gis Ccyk Be5g Ccyk B119g Chek Balg Ci2k Ba2s Ch18 Bb6s Cdmk Bdhg Cdh8 Bdjw Cdjw Be2s Cd18 Bd1g Cdjw Bdxg Cdjw Bdhg Cdjw Bdk4 Cdjw Bdes Cdmk Bdc4 Cdp8 Bdhg Cdjw Bdk4 Cdjw,Bdhg*3 Cdjw Bdk4 Cdjw,Bdhg*2 Ccvw Be04 Cg2k Bbes Cfmk Batg Cg2k Bbes,Cfjw*4 @119 Dg2k 37y4hbj|<+03>-3",
  "Asia/Dili|ao8xac8xac|B-17la8 Cmnjw Dpp40 Cibhg 2jhkf7j|<+09>-9",
  "Asia/Dubai|ap9m|1-q3gnko 11pm0ok7|<+04>-4",
  "Asia/Dushanbe|aq909c94949c9d90|1-nu18qo 3379yuo C125uk @19 Hc04 7o73qnj|<+05>-5",
  "Asia/Famagusta|ar0v0w0w0v970w|2-p4bqac 1rvhy2c Cdh8 @36 Ebeo Fc7k Duts Eaw0 @44 Dg2o Ebeo,Dfk0*2|EET-2EEST,M3.5.0/3,M10.5.0/4",
  "Asia/Gaza|as0v0w0w0vatauatau0w|3-1054x1s 1kp9t1s @26 Eel8 Dbek Efk4 Dbxc 4ahs1o 371mic 4bzk5o 369uic Ehxg @10 Eaw4 Dbx8 E344 D118 @35 Ebes D118 E344 Dbek|EET-2EEST,M3.4.4/50,M10.4.4/50",
  "Asia/Hebron|av0v0w0w0vatauatau0w|3-1054x5z 1kp9t5z @26 Eel8 Dbmk Efc4 Dbxc Ef1c Da7w 4bzk5o 369uic E25g D2ak Edhg @10 Eaw4 Dbx8 E344 D118 @35 Ebes D118 E344 Dbek|EET-2EEST,M3.4.4/50,M10.4.4/50",
  "Asia/Ho_Chi_Minh Asia/Saigon|awax8z8xac8z|1-x5692u C3mqo 3gj25iu E1njw Cco0 D16o8 C676o D3duk Cblxc 2wo9b7j|<+07>-7",
  "Asia/Hong_Kong Hongkong|ayazb0b1b2azb0az|B-1cza4 Criw8 D800 E6aa H2xhi Cbek Fglq G9uo Fh40 Gbeo Fdhc Cbeo,Ffk0*3 Cbxc Ffk0 Cbeo Hfjw Cadg Hgl8 Cadg Hh3w C9us Hh3w Cadg,Hgl8*3 Cadg Hh3w,C9us*2 Hh3w Cadg,Hgl8*2 Ccg4 Hdh8,Cdhg*2 Hdzw Cdhg,Hdh8*4 Cdhg Hdzw Cdhg Hdh8 C56s Hlrw Cdhg,Hdh8*2 C1xhg Hbx8|HKT-8",
  "Asia/Hovd|b394a08z|1-xmcoz0 311sncb0 @74 Cdho Ddh0 3b4l8jj|<+07>-7",
  "Asia/Irkutsk|b4b58zad8x8xada08zacad8x|1-1ayylz5 Cu3xc 45fh175 D125uk @136 @14 @62 Gbeo Fg2o Jaw0 F2oyk 5c4jlrj|<+08>-8",
  "Asia/Istanbul Europe/Istanbul Turkey|b6b70v0w979t0v0w0v0w97|1-1ayy814 3g1oam8 22wvx6w Dbbw C2mdg Dfmk Cbus Ddjw Ccw4 Deik C176s Dafw Cfpg Dbbw Cb31g D76k C45g Dlrw Ce84 D2n98 Chhg D918 Cew4 Dcfw Ceis Dcfw Ce04 Dcyk,Ceis*2 Dcfw C83es Dyyk Ceo4 Daak C6ilk Dbeo Caw4 Dg2k Caas Dgnw Cadg Dgl8 Cbes Deik Ccg4 E6ic F3tmw E4nw Dtc4 Gclc Hbxc Gdk0 Hdhc,Gdhc*4 He00 Gdhc,Hdhc*3 Gcyo He00 Gdhc Hdhc Ge00 Hfk0,Gbeo*3 @144 Hg2o,Gaw0*2 Hg2o Iaw8 Jg2o Ibeo,Jfk0*2 Ibeo Jg2o Iayo Jg00 Iaw0 Jg2o Ibeo Jfk0 Ibhc Jfhc Ibeo Jglc Iadc Ec4w 4b5gbzj|<+03>-3",
  "Asia/Jakarta|b8b9baa4ac8xbb|1-1hftyg0 2tfikqo D6n1c 44wdzjc D2mt6 F1yg6 D1i2m Ga9uq|WIB-7",
  "Asia/Jayapura|bcacbdbe|1-jebm20 266bqe0 Dej1a|WIT-9",
  "Asia/Jerusalem Asia/Tel_Aviv Israel|bfbgataubhatauatau|1-1ayy96u 6jtxuoe 2bp5aig D91c C3hc D1gw0 Cb6o Dfuo Cb9c Dfuo Ccao,Deqo*2 E165c C7hc D4io Cdeo Ddmo Ccao Db9c Ceo0 Dglc Cbxc Ddhc Ccyo Dbeo Ck80,D6qo*2 Cjpc D8tc Cfk0 Daw0 Fcm7s G798 Fe04 G9uk H3p9g I340 H2qio I8ao Fh40 Gad8 Fj6s G8ak Fgas Gb6k Ffk4 Gavw Fhms G9bw Ff1g Gbek Ffk4,Gbx8*2 Ffes Gbjw Ffes Gb18 Ffxg Gbjw Fedg Gdp8 Fds4 Gd3w Fdus Gcl8 Fff0 Gbek Fglg Gcyg Fdpg Gcfw Fds4 Ge7w Fcqs Gdzw Fdus Gcfw Fe5k Ge58 Fctg Gdmk Fdc4 Gcl8 Fedg Ge58 Fctg Gdmk Fdc4 Gcl8 Few4 Gdmk Fdc4 Gd3w Fdus Gfp8,Fb9g*3 Gg7w,Faqs*2 Gg7w Fb9g,Gfp8*2 Fb9g Gg7w,Faqs*2 Gg7w Fb9g,Gfp8*3 Fb9g Gg7w,Faqs*2 Gg7w Fb9g,Gfp8*2 Fb9g Gg7w,Faqs*3 Gg7w Fb9g,Gfp8*2|IST-2IDT,M3.4.4/26,M10.5.0",
  "Asia/Kabul|bi9mbj|1-15r1m5c 2spc1pc 21ck9lfj|<+0430>-4:30",
  "Asia/Kamchatka|bk8y9j9g9g9j9k8y9g|1-olrupo 33z045o @4 @30 Gbeo Hg2s Eaw0 4dzvtzj|<+12>-12",
  "Asia/Karachi|blaka990bmbn|1-wvpb30 2im3zt0 B2cfw D4h6s Fen6q Enbmo Fdh8 E48ys Fbbw Ec84 Fet8|PKT-5",
  "Asia/Kashgar Asia/Urumqi|bo94|1-lx5pjw 11lfpqjf|<+06>-6",
  "Asia/Kathmandu Asia/Katmandu|bpakbq|1-q3gt4s 2yg2lus 2r5y89j|<+0545>-5:45",
  "Asia/Khandyga|br8xabacacabad8xbs91918yac|1-q4cjrp 35hl1jp C125uk @19 @95 Edhc @63 K4yg I6g4 @115 Ibeo Jg2o Law0 Jcl0 E2cdo 4c4jojj|<+09>-9",
  "Asia/Krasnoyarsk|bt94a08z8za09c948xa08z|1-q37l72 35gg8j2 @4 @30 @92 E2oyk 4c4jizj|<+07>-7",
  "Asia/Kuala_Lumpur|bubv8zbwbaa4ac8x|1-100ew5y 22ax69l @143 7t93z7j|<+08>-8",
  "Asia/Kuching|bxa4by8xac8x|1-mvof3k 33khwxk C211a 34ohqo 2e5a9c 34ohqo,2e3flc*3 34ohqo 2e5a9c 34ohqo 2e3flc 34ohqo 43ajlc D2ol8 31c77lzj|<+08>-8",
  "Asia/Kuwait|bz97|1-afs0vw 119yc1vf|<+03>-3",
  "Asia/Macao Asia/Macau|c0ahabacagahag|1-y0i2cy 3jdvyoy C9mk Devw Cc5g Dbbw B1i5k Efpc Fbc0 Eew0 Fgo0 Ebeo Fdhc Ebc0 Ffk0,Ebeo*2 Ffmo Ebuo Ffk0 Ebeo Ffk0 Eadc Fglc Eadc Fh40 E9uo Bh4e Gadg,Bgl8*3 Gadg Bh3w,G9us*2 Bh3w Gadg,Bgl8*2 Gcg4 Bdh4,Gdhk*2 Bdzw Gdhg,Bdh8*4 Gdhg Bdzw Gdhg Bdh8 G56s Blrw Gdhg,Bdh8*2 G1xhg Bbx8|CST-8",
  "Asia/Magadan|c1919k8y8y9kbs919g9k8y|1-nu1nxc 337a05c @4 @30 @92 H2oyk E14g8 4bcgkjj|<+11>-11",
  "Asia/Makassar Asia/Ujung_Pandang|c2c38xacc4|1-q3gzg0 C9n9c 34u87w0 E2px8|WITA-8",
  "Asia/Manila|c5c6c7c8c8b2c8|1-1t8ix2g 4sjc9ig Crx5c D5mk C3oys F4ak C2ao0 Dk5c C6a84 D3zw Ch56s Dd6k C9iis D53w|PST-8",
  "Asia/Muscat|c99m|1-q3go6o 11pm0p67|<+04>-4",
  "Asia/Nicosia Europe/Nicosia|ca0v0w0w0v|2-p4bq6g 1rvhxyg Cdh8 @36 Ebeo Dg2o,Eaw0*2 @44 Dg2o Ebeo,Dfk0*2|EET-2EEST,M3.5.0/3,M10.5.0/4",
  "Asia/Novokuznetsk|cb94a08z8za09c948z|1-nu36tc 337bu5c @4 @30 Gbeo Hg2s Eaw0 4dzvg3j|<+07>-7",
  "Asia/Novosibirsk|cc94a08z8za09c949c8z|1-q4do0s 35hmbcs C125uk @19 Hdhg E8ao F56k Edhc Fdhc I450 H9cg Gdhc,Hdhc*2 @20 @90 E1b6s 4b7rqrj|<+07>-7",
  "Asia/Omsk|cd909c94949c9d908z9c94|1-q5xmx6 35j6d16 @4 @30 @92 E2oyk 4c4jg7j|<+06>-6",
  "Asia/Oral|ce97909d94909d9n9m90|1-nu15ic 237a16c D125ug @73 Fdhk Gdhc,Fdhc*4 Hdhc Idhg Hdhc Ie00 Hdhc Idhc F8ao H56k Idhg Hdhc,Idhc*3 @106|<+05>-5",
  "Asia/Phnom_Penh|cfax8z8xac8z|1-x568rg 22isicm 3gj25iu E1njw Cco0 21c7q4nj|<+07>-7",
  "Asia/Pontianak|cgcha4ac8xc4bb|1-w6piww Cieyo 34tnu2w C2qqi E1yg6 C1i2m Fa9uq Gi1by|WIB-7",
  "Asia/Pyongyang|cicjb2ck|1-w895yc 21yh10c Dpaam B1gl6o D21mo|KST-9",
  "Asia/Qatar|cl9m97|1-q3gmvk 2rctnrk 2y9703j|<+03>-3",
  "Asia/Qostanay|cm9m909d94909d9n9m949d90|1-nu17s4 237a0o4 D125uk @73 @14 Jg2o Cej10 278xazj|<+05>-5",
  "Asia/Qyzylorda|cn9m909d94909d9n949d90|1-nu184g 237a10g D125uk @73 @78 Hdhc Fdhg I8ak G56k Fdhg Gdhc,Fdhc*3 Ge00 Ffk0,Gbeo*3 @103 Ig2o Camic 29yi9nj|<+05>-5",
  "Asia/Rangoon Asia/Yangon|cocpalacal|1-1ayykhb Cu25c 3bnjp3b C29bq 21ce01zj|<+0630>-6:30",
  "Asia/Riyadh|cq97|1-bwgbbg 11bf0caz|<+03>-3",
  "Asia/Sakhalin|crac9k8y8y9kbs918y|1-xl87rc 3kvnarc Cqr6g @19 @95 Edhc Fe00 Efk0 Gbeo Hfk4 Gbeo Hfk0 Gbeo @144 @53 Gbeo @90 E12dg 4bdwf7j|<+11>-11",
  "Asia/Samarkand|cs9m909d94909d|1-nu18eh 237a1ah D125uk @73 @78 Gdhc Fdhc 5o62pbj|<+05>-5",
  "Asia/Seoul ROK|ctcjb2cuckcvcu|1-w8966g 21yh18g Epbem D21uo E7p8 Deys Ebx8 Deys Ebzw Dhms E9bw B1wg4 Fude B9ek Fitg B9uk Fg2s Bad8,Fglg*3 Bad8 Eo5g Djcli Ebeo Dfk0 Ebeo|KST-9",
  "Asia/Singapore Singapore|cwbv8zbwbaa4ac8x|1-100ewkd C3beo @143 7t93z7j|<+08>-8",
  "Asia/Srednekolymsk|cx919k8y8y9kbs919g9k8y|1-nu1ogs 337a0os @4 @30 @92 E2oyk 4c4ju3j|<+11>-11",
  "Asia/Taipei ROC|cyahb2agah|1-12mch60 2lsd1m0 B5zpc Dhhc Baak Deis Bet8 Ddhg Bbbw,Dfpg*3 Bbbw Db9g Bi58 Db6s,Bfuk*2 Db6s Bdjw Ddk4 Bdjw,Ddhg*3 Bdjw Di2s B918 Di04 B918 D9e5g Bdjw Ddhg Bdjw D2tes B6t8|CST-8",
  "Asia/Tashkent|cz909c94949c9d90|1-nu18tz 3379yxz C125uk @19 Hdhg 7o62pbj|<+05>-5",
  "Asia/Tbilisi|d0d1979n9m9m9n9t979t9m|1-1ayyayn Cxbeo 4h4tjyn Di3mk @136 @78 Hdhc Idhg Jdh4 Cdh8,Jdhg*2 Edh8 Ddhc Edh8 De04 Dqyk Efk0 Dbes Efjw Dbes Eg2k,Daw4*2 Eg2k Dbes,Efjw*2 Dbes J6qk I9cg Eaw0 4h4kmfj|<+04>-4",
  "Asia/Tehran Iran|d2d3d49v9n9md49v|1-s6m6uw Dem5c 2lsvh0w Ffs0 Ebhe F9uo D79c Cele D8ik Cdms Ddrw C7yys Daik Cdhg Ddmk,Cdes*4 Ddmk Cdhg Ddmk,Cdes*3 Ddmk Cdhg Ddmk,Cdes*3 Ddmk Cdhg Ddmk C1vhg Ddmk Cdhg Ddmk,Cdes*3 Ddmk Cdhg Ddmk,Cdes*3 Ddmk Cdhg Ddmk,Cdes*3 Ddmk Cdhg Ddmk Cdes Ddmk 37zz9hj|<+0330>-3:30",
  "Asia/Thimbu Asia/Thimphu|d5ak94|1-bojclo 2kxymno 2q94qxj|<+06>-6",
  "Asia/Tokyo Japan|d6d7b2b2|D-1pmjo B19cao C9uo Bf1c Cbxc Bhmo,C9c0*2|JST-9",
  "Asia/Tomsk|d894a08z8za09c949c8z|1-q3zbqf 35h7z2f C125uk @19 @95 Edhc Fe00 Efk0,Fbeo*3 Eg2o,Faw0*2 Eg2o Fbeo I2ao Hd9g Gbeo Hfk0 Gbeo @53 Gbeo @90 E171g 4bang3j|<+07>-7",
  "Asia/Ust-Nera|d98xac8y9k8y9kbs919g9k91|1-q4cl6u 25hl2yu E125uk Ddjo Edhg,Ddjw*2 Edk4 @14 @62 Gbeo Fg2o Jaw0 Fcl0 I2cdo 8c4jrbj|<+10>-10",
  "Asia/Vientiane|daax8z8xac8z|1-x568c0 22ishx6 3gj25iu E1njw Cco0 D16o8 C61h8 21772cjj|<+07>-7",
  "Asia/Vladivostok|dbacbs9191bsabac8ybs91|1-oligf7 33yqvf7 @4 @30 @92 E2oyk 4c4jrbj|<+10>-10",
  "Asia/Yakutsk|dc8xabacacabad8x91abac|1-q4cioy 35hl0gy @4 @30 @92 E2oyk 4c4jojj|<+09>-9",
  "Asia/Yekaterinburg|ddde9m9d90909d9n9m949d90|1-rx5hw9 21kybx4 45pfyv5 D125uk @136 @14 @62 Gbeo Fg2o Jaw0 F2oyk 5c4jdfj|<+05>-5",
  "Asia/Yerevan|df979n9m9m9n9t979n9m|1-nu148o 3h4tjwo Ci3mk @19 Hdhg Gdhc,Hdhc*3 Gdhc Edhc F14yk Efk0,Fbeo*2 @145 @30 Fbeo Eg2o Faw0 Eg2o 4dopfvj|<+04>-4",
  "Atlantic/Azores|dgdh5q5p5q5p5p8e0i8e0i0b0c8e0i|1-18vsdww 6em124w @123 Dgvw @32 Edhc Idhc Hbmyc Idhc,Hdhc*2 Ie00 Hdhc Idhc Jdhc,Kdhc*4 Jdhc Ke00 Jdhc,Kdhc*2 M6qs L6qk J600 K7hc Jdhc,Kdhc*2 Je00 @12 @80 a4ffjj|<-01>1<+00>,M3.5.0/0,M10.5.0/1",
  "Atlantic/Bermuda|didjdk4132|2-15r0xbu Bkhhc Cd6k Beg4 Cbh8 E8hkc 369z5ru Ekqk Dbes Egl8 D9us Ehmk D9c4 Ehmk D15hg E8t8 Dio4 E7rw Dj6s E7rw Djpg,E798*2 Djpg E7rw D2slg Ebek Dd5es Edh8,Ddhg*2 Edzw @114 Dbxg Ef18 @133 Dbxg,Ef18*2 @33 @133 D9us,Ehmk,D9c4,Ehmk,D9c4,Ehmk*2 D9c4,Ehmk*3 @118 @67 Ehmk,D9c4*5 Ehmk|AST4ADT,M3.2.0,M11.1.0",
  "Atlantic/Canary|dl0i0c0b0c0b|1-oytbtc 2ctvupc Dp6t4 Ecys Fdhc,Edhc*3 @129 @63 Fbeo @30 @87 Eg2o Fbeo,Efk0*3 Fbeo @145 @30|WET0WEST,M3.5.0/1,M10.5.0",
  "Atlantic/Cape_Verde|dm5p5q5p0i|B-17l94 Cn1pc D2cfw Emmoc 4wfqtvj|<-01>1",
  "Atlantic/Faeroe Atlantic/Faroe|dn0c0b0c|1-wcehew 2127keuw Ddhc,Cdhc*3 @16 Dg2o Cbeo,Dfk0*2|WET0WEST,M3.5.0/1,M10.5.0",
  "Atlantic/Madeira|dodp8e0i8e0i0i0y0c0b0b0c0b|1-18vsfjc 6em10zc @123 Dgvw @32 Edhc Idhc Kbnh0 Icyo Jdhc Idhc Jdhc Ie00 Jdhc Idhc Jdhc Ldhg Mdhc,Ldhc*3 Mdhc Le00 Mdhc,Ldhc*5 Me00 Lfk0,Mbeo*3 Lg2o,Maw0*2 Lg2o Mbeo,Lfk0*2 Mbeo Lg2o,Maw0*3 Lg2o Mbeo,Lfk0*2 Mbeo Lg2o,Maw0*2 Lg2o Mbeo,Lfk0*3 Mbeo Lg2o,Maw0*2 Lg2o Mbeo,Lfk0*2 Mbeo Lg2o,Maw0*2 Lg2o Mbeo,Lfk0*3 Mbeo Lg2o,Maw0*2 Lg2o Mbeo,Lfk0*2 Mbeo Lg2o,Maw0*3 Lg2o Mbeo,Lfk0*2|WET0WEST,M3.5.0/1,M10.5.0",
  "Atlantic/Reykjavik Iceland|dq8e0i0i8e01|2-wcwx9c 14rpd9c Ci04 B918 Cjxg B73w Cjxg B10ak C71g Bdeyk Cdhk B8tg Dinw E8tc Di5c E9c0 Dh40,E9uo*3 Dhmo E9c0 Dhmo Ebxc,Df1c*2 Ebxc Dfk0 Ebeo Df1c Ebxc Dfk0 Ebxc,Df1c*4 Ebxc Dfk0 Ebxc,Df1c*5 Ebxc Dfk0 Ebxc,Df1c*4 Ebxc Dfk0 Fbxc|GMT0",
  "Atlantic/South_Georgia|dr5p|1-15r12kg 1259l3jz|<-02>2",
  "Atlantic/St_Helena|dsdt01|1-15r18a0 C19uao|GMT0",
  "Atlantic/Stanley|dudv3b3a36373b|1-15r0ymc Dgodc 2dbvxqc Dcyk Ce04 Dcyk Ceis Dcyk,Ce04*3 D73w Fub44 Eavw Fg2k Eadg Fgl8 Cadg Dg2o Caw4,Dg2k*3 Caw4 Dgl8 Cadg Dgl8 Caw4,Dg2k*4 Caw4 Dgl8 Caw4,Dg2k*4 Caw4 Dg2s Cadg Dh3w C9us Dh3w Cadg,Dgl8*4 Cadg Dh3w Cadg,Dgl8*2 Fadg 5eaalnj|<-03>3",
  "Australia/ACT Australia/Canberra Australia/NSW Australia/Sydney|dw939292|3-133j5c4 1bfqds4 @69 @86 Cbxc Bfk0 C9c0,Bhmo*3 Cadc Bg2o Caw0,Bglc*2 Cadc Bglc C9c0,Bhmo*3 C9uo Bhmo,C9c0*2 Bhmo @81 Cbxc Bdhc,Cdhc*4 @46|AEST-10AEDT,M10.1.0,M4.1.0/3",
  "Australia/Adelaide Australia/South|dxdydze0e0|1-133j2zw 427qdzw @131 Ckqo0 D8tc Ci5c D9c0,Chmo*3 D9uo Chmo,D9c0*5 Chmo D9uo Chmo,D9c0*3 Chmo Dadc Cg2o Daw0,Cglc*2 Dadc,Cglc*2 D9c0 Chmo Daw0 Cg2o D9uo Chmo Dadc Cglc Daw0 @100 Dbeo Cfk0 Daw0 Cg2o Dbxc Cdhc,Ddhc*4 @97 De00 Cdhc,Ddhc*5 Ce00 Ddhc,Cdhc*5 Ddhc Ce00 Ddhc,Cdhc*2|ACST-9:30ACDT,M10.1.0,M4.1.0/3",
  "Australia/Brisbane Australia/Queensland|e1939292|3-1354kc8 1bhbss8 @69 C8tc Bda2o C9c0,Bhmo*2 C9c0|AEST-10",
  "Australia/Broken_Hill Australia/Yancowinna|e292dydze0e0|1-133j3j0 2t9nr0 F20o4 Dda2u E65c Dim80 E6g0 @142 Dkqo0 E8tc Di5c E9c0,Dhmo*3 E9uo Dhmo,E9c0*5 Dhmo Ebxc Dfk0 E9c0,Dhmo*3 Eadc Dg2o Eaw0,Dglc*2 Eadc Dglc E9c0,Dhmo*3 E9uo Dhmo,E9c0*2 Dhmo Ebeo,Dfk0*3 Ebeo @146 Dg2o Eaw0 Dg2o Ebeo Dfk0 Eaw0 Dg2o Ebxc Ddhc,Edhc*4 De00 Edhc,Ddhc*5 @137 Ee00 Ddhc,Edhc*5 De00 Edhc,Ddhc*5 Edhc De00 Edhc,Ddhc*2|ACST-9:30ACDT,M10.1.0,M4.1.0/3",
  "Australia/Currie Australia/Hobart Australia/Tasmania|e3939292|3-12smja4 1b03ee4 Ccyo Bg2o C9c0 Bhmo C9c0 Bh5uo C6g0 Bdhc Cdhc Be00 Ccyo Bho80 Cdhc Bfk0 C9uo,Bh40*2 Cadc Bh40 @86 Cbeo Bg2o Caw0 Bg2o C9c0,Bhmo*2 C9c0 Bh40 Caw0,Bglc*2 Cadc,Bglc*2 Cbeo Be00,Ccyo*4 Be00 Cdhc Be00,Ccyo*4 Bbeo Cfk0 Beio Ccyo,Be00*4 Cdhc Bdhc Ccyo Beio Cdhc,Bdhc*4 Cdhc @46|AEST-10AEDT,M10.1.0,M4.1.0/3",
  "Australia/Darwin Australia/North|e4dydze0e0|1-133j1k8 427qck8 @131|ACST-9:30",
  "Australia/Eucla|e5e6e7e7|3-12nxx74 1b05944 @85 Cbeo 2f1bt2j|<+0845>-8:45",
  "Australia/LHI Australia/Lord_Howe|e892e9eabs|1-133j6sk 318x8f0k Chmu D9uk Chms,D9bw*3 Ehms Dada Eg2q Davy,Egle*2 Dada Egle D9by,Ehmq*3 D9um Ehmq,D9by*2 Ehmq Dbem,Efk2*3 Dbem Eg2q Davy Ebeq Dfjy Eg2q Dbem,Efk2*2 Dbem Eg2q Davy Eg2q Dbem Efk2 Davy Eg2q Dbxa Edhe,Ddha*4 Ee02 Ddha,Edhe*5 Ddha Ee02 Ddha,Edhe*5 Ddzy Edhe,Ddha*5 Ee02 Ddha,Edhe*5 Ddha Ee02 Ddha,Edhe*2 45j1xj|<+1030>-10:30<+11>-11,M10.1.0,M4.1.0",
  "Australia/Lindeman|eb939292|3-1354jl8 1bhbs18 @69 C8tc Bda2o C9c0,Bhmo*3 C9uo Bhmo C9c0|AEST-10",
  "Australia/Melbourne Australia/Victoria|ec939292|3-133j46g 1bfqcmg @69 @86 C9uo Bhmo,C9c0*3 Bhmo Cadc Bg2o Caw0 Bg2o Cbeo Bglc,Cadc*2 Bglc C9c0,Bhmo*2 C9uo Bhmo C9c0 Bhmo Caw0 Bg2o @81 Cbxc Bdhc,Cdhc*4 @46|AEST-10AEDT,M10.1.0,M4.1.0/3",
  "Australia/Perth Australia/West|edeeefef|3-12nxusc 1b058sc @85 Cbeo|AWST-8",
  "CET|0e0d0d0e|@61 @16 Dg2o Cbeo,Dfk0*2|CET-1CEST,M3.5.0,M10.5.0/3",
  "CST6CDT|3t3s3u3v3t|B-12w9s @110 D2n0c A3fk @5 Ahmk|CST6CDT,M3.2.0,M11.1.0",
  "Chile/EasterIsland Pacific/Easter|egeheiejejekel|1-15r0p2w Ew2ao 2ivmeuw Davw Chms D9bw Ceis Dbek Cfk4 Dbek Cg2s Davw Cf1g Dbx8 Cg2s Davw Cg2s Dbek,Cfk4*2 Dbek Cg2s,Davw*2 Cg2s Dbek Cfk4 Fbek,Gfk4*2 Fbek Gg2s,Favw*2 Gg2s Fdh8 Gdhg Fbek Gfk4 Fbek Gg2s Favw Ge04 Fcyk Gg2s Fbek,Gfk4*3 Fbek Gg2s Favw Gg2s Fcfw Geis Fbek Geis Fdzw Ge04 Fbek Gg2s,Favw*3 Gg2s Fbek,Gfk4*2 Fbek Gg2s Favw Gg2s Fcfw Geis Fbek Gfk4 Fcyk Ge04 Ffjw G7s4 Finw G9c4 Fhmk G9us Fh3w G9us F19mk G6qs,Fk7w*2 G6qs Fhmk Gbes,Ffjw*3 Gbxg Ff18 Gbes @111 Fg2k Gaw4 Fg2k Gbes Ffjw Gbes 66xxvj|<-06>6<-05>,M9.1.6/22,M4.1.6/22",
  "EET|0w0v0v0w|B5g84 Acyo Be00 Adhc Bdhc Adhc Be00 Acyo Bdhc,Adhc*3 Bdhc Ae00 Bdhc,Adhc*5 Bdhc Ae00 Bdhc,Adhc*5 Be00 Afk0,Bbeo*3 Ag2o,Baw0*2 Ag2o Bbeo,Afk0*2 Bbeo Ag2o,Baw0*3 Ag2o Bbeo,Afk0*2 Bbeo Ag2o,Baw0*2 Ag2o Bbeo,Afk0*3 Bbeo Ag2o,Baw0*2 Ag2o Bbeo,Afk0*2 Bbeo Ag2o,Baw0*2 Ag2o Bbeo,Afk0*3 Bbeo Ag2o,Baw0*2 Ag2o Bbeo,Afk0*2 Bbeo Ag2o,Baw0*3 Ag2o Bbeo,Afk0*2|EET-2EEST,M3.5.0/3,M10.5.0/4",
  "EST|34||EST5",
  "EST5EDT|344m5d5e34|B-12w9w @110 D2n0g A3fg @5 Ahmk|EST5EDT,M3.2.0,M11.1.0",
  "Eire Europe/Dublin|emeneoep01eqereq01|1-1anxqtr Cqwiw E9uo 39pytr Ec00 Ddxc Ee2o Ddeo Edk0 Ddeo Efmo Dbuo Edk0 Fcw0 Eeio Feio Eaw0 Ffk0 Ebxc Ffk0 Ecg0 Feio Ecg0 Fe00 Ecyo Ff1c Ecg0 Feio Ecg0 Fe00 Ecyo Feio,Ecg0*2 Fe00 Edhc Feio Ecg0 Fe00 Ecyo Feio,Ecg0*2 Fe00 Ecyo Feio Eg2o F79c E4yw0 Fbxc Eh40 Fcg0 Eeio Fbeo Efk0 Fcg0 Ee00 Fcyo Ee00 Fdhc Ee00 Fcyo Ecg0 Fe00 Ecyo Feio Ecg0 Ff1c Ecg0 Fe00 Ecyo Feio,Ecg0*2 Fe00 Ecyo Fcyo Eg2o Faw0 Eg2o Fbeo Efk0 Faw0,Eg2o*3 Faw0 Eglc F8ao Gino I29f0 Fadc,Eglc*4 Faw0,Eg2o*2 Faw0 Eglc,Fadc*2 Eglc Hbek Ifk0,Hbeo*3 Ig2o Hbeo,Ifk0*4 Hbeo Ig2o Haw0 Ig2o Hbeo,Ifk0*5 Hbxc @23 @79|GMT0IST,M3.5.0/1,M10.5.0",
  "Etc/GMT Etc/GMT+0 Etc/GMT-0 Etc/GMT0 Etc/Greenwich GMT GMT+0 GMT-0 GMT0 Greenwich|01||GMT0",
  "Etc/GMT+1|0i||<-01>1",
  "Etc/GMT+10|es||<-10>10",
  "Etc/GMT+11|et||<-11>11",
  "Etc/GMT+12|eu||<-12>12",
  "Etc/GMT+2|5p||<-02>2",
  "Etc/GMT+3|37||<-03>3",
  "Etc/GMT+4|3a||<-04>4",
  "Etc/GMT+5|4d||<-05>5",
  "Etc/GMT+6|ek||<-06>6",
  "Etc/GMT+7|ej||<-07>7",
  "Etc/GMT+8|ev||<-08>8",
  "Etc/GMT+9|ew||<-09>9",
  "Etc/GMT-1|10||<+01>-1",
  "Etc/GMT-10|91||<+10>-10",
  "Etc/GMT-11|8y||<+11>-11",
  "Etc/GMT-12|9g||<+12>-12",
  "Etc/GMT-13|9i||<+13>-13",
  "Etc/GMT-14|ex||<+14>-14",
  "Etc/GMT-2|ey||<+02>-2",
  "Etc/GMT-3|97||<+03>-3",
  "Etc/GMT-4|9m||<+04>-4",
  "Etc/GMT-5|90||<+05>-5",
  "Etc/GMT-6|94||<+06>-6",
  "Etc/GMT-7|8z||<+07>-7",
  "Etc/GMT-8|8x||<+08>-8",
  "Etc/GMT-9|ac||<+09>-9",
  "Etc/UCT Etc/UTC Etc/Universal Etc/Zulu UCT UTC Universal Zulu localtime|ez||UTC0",
  "Europe/Amsterdam|f0f1f2f1f2f3f4f40e0d0d0d0e|2-1ygf4wk B1p4dc Cbbw Delo Ebeo Deio Edhc De00,Ecyo*3 Ddeo Eeio Dhhc E9hc Dcyo Ee00 Di00 E8yo Dgio Eag0 Dglc Eadc Dgqo Eaqo Dgao Eao0 Dgdc Ealc Dgg0 Eaio Dh40 E9uo Dgo0 Eatc Dg80 Eaqo Dgao Eao0 Dgg0 Eaio Dh1c H2yc 54uaz8 Gglc Fadc Ggo0 Fatc Kgd4 81aarpc Jaw0 Ie00 Jdhc Idhc Jdhc Icdc Lnphc Mcyo Le00 Mdhc @28|CET-1CEST,M3.5.0,M10.5.0/3",
  "Europe/Andorra|f50c0e0d0e|1-100edm4 2nvgqy4 Dsxms Edhc,Ddhc*5 Ee00 @39 @120|CET-1CEST,M3.5.0,M10.5.0/3",
  "Europe/Astrakhan|f6979n9m9m9n9t979m|1-nu2zkc 337bv8c @66 @96 @20 @90 E12dg 4bdvvrj|<+04>-4",
  "Europe/Athens|f7f80v0w0e0d0v0w0v0w|1-12rxtq4 3aw2tdo 28bjasg D458 C6glg F1p8 E14ts Fayg Edx8 Ddk4 C66yk D96k Ggv44 Hgw0 Ga5k Hdhc Gcyo Hd1c Gdxc Dcys Ce0o Ddds Cdp8 Ddbw Idhs Jdhc,Idhc*3 Je00 Idhc,Jdhc*5 Idhc Je00 Idhc,Jdhc*5 Ie00 Jfk0,Ibeo*3 @42 @115|EET-2EEST,M3.5.0/3,M10.5.0/4",
  "Europe/Belfast Europe/London GB GB-Eire|f9ep01fa01fbep01|4-1rprx9x 1zqf9hx @6 @52 D22k @18 @140 Fino H29f0 @64 Gbek Hfk0,Gbeo*3 Hg2o Gbeo,Hfk0*4 Gbeo Hg2o Gaw0 Hg2o Gbeo,Hfk0*5 Gbxc Hfk0,Gbeo*3 @8 @53|GMT0BST,M3.5.0/1,M10.5.0",
  "Europe/Belgrade Europe/Podgorica|fc0e0e0d0d0d0e|1-18vsmgo 4twhnko C15n0 Daw0 Ce00 Ddhc Cdhc Dg5c C9pc Fs79c Gdhc Fdhc @1 Gg2o Fbeo,Gfk0*2|CET-1CEST,M3.5.0,M10.5.0/3",
  "Europe/Berlin|fd0d0e0d0efefe0d0e|2-1421154 1c1n0x4 @105 F3uk B940 E42s Daw0 Ed1c Ddes G2l8 B3mk E79g Deio Ecg0 De00 Ecyo Hmxhc @107 He00 @23 @79|CET-1CEST,M3.5.0,M10.5.0/3",
  "Europe/Bratislava Europe/Prague|fffg0d0e0d0e010d0e|1-1qmkw08 Dvdhc 2cttug8 Dbc4 Eelk Fbeo Efk0 Fbeo Eg6tc F1y00 Eaw0 Fe00 Edhc,Fdhc*2 Eg2o Fbc0 G45g D680 E458 Fcg0 Eeio Fcg0 Edxc Fd1c Hm600 Idhc He00 @107 He00 @23 @79|CET-1CEST,M3.5.0,M10.5.0/3",
  "Europe/Brussels|fhfi0c0e0d0e0d0b0c0c0d0e|1-1ayy3h6 26forh6 Dgx9c G13zw Dbc0 Eelk Fbeo Efk0 Fbeo J46g H86o Ig2o H9uo Iio0 Haio Igo0 Hb6o Ieio Heio Icg0 Hcyo Ie00 Hdhc Idhc Heio Icg0 He00 Icyo Heio Icz0 Heio Icg0 He00 Icyo Heio Icg0 Hdhc Idhc Hcyo Ieio Hdhc Idhc Hcyo Ie00 Heio Icg0 Hdhc Idhc Hcyo Ie00 Heio Ig2o H79c E6ao F1ud8 Eaw0 Fe00 Edhc Fcdc Eelc Fcdc Ei5c Fag0 Kmww0 Lcyo Ke00 Ldhc Kdhc Ldhc Ke00 Lcyo Kdhc,Ldhc*3 Kdhc Le00 Kdhc,Ldhc*5 Kdhc Le00 Kdhc,Ldhc*5 Ke00 @40 @104|CET-1CEST,M3.5.0,M10.5.0/3",
  "Europe/Bucharest|fjfk0v0w0v0w0v0w|1-14u7wu0 Ftx1c 2fj8m0 D9xc Cdhc Ddhc Ce00 Ddhc,Cdhc*5 Ddhc Etstc F9bw Ee00 Fcys Cdhk Ddhc,Cdhc*3 De00 Cdhc,Ddhc*5 Cdhc De00 Cdh4 Ddhc,Cdhc*2 Ddhc Edhc Fdh8 Edhg Fdh8 Ee04 Ffjw Gbf4 Hfk0,Gbeo*2 @8 @53|EET-2EEST,M3.5.0/3,M10.5.0/4",
  "Europe/Budapest|fl0d0e0d0e0d0e|2-15bee78 1db0dz8 Cbc4 Delk Ebeo Bfk0 Cbeo Bfmo Cbc0 Bf1c Ccg0 Bffx0 E16gc Daw0 Ee00 Ddhc Edhc Bfp0 Cdk4 Db48 Ce2k Ddes Edhc @142 B3hh4 C9uk Bh4c C9uo Bi5c,C8tc*2 Bgx94 Ccyo Bdhc,Cdhc*3 Fdhk @1 Gg2o Fbeo,Gfk0*2|CET-1CEST,M3.5.0,M10.5.0/3",
  "Europe/Busingen Europe/Zurich|fmfn0d0e0d0e|1-1os49kw 3lc05ja 2ohmxdm Dbeo Cfk0 Dbeo Esx44 Fdhc,Edhc*3 @17 Fg2o Ebeo,Ffk0*2|CET-1CEST,M3.5.0,M10.5.0/3",
  "Europe/Chisinau Europe/Tiraspol|fofpfk0v0w0w0v0e0d0dfqfrfrfq0v0w|1-1ayy808 2jw96ok 570f1to 3fj8m0 E9xc Ddhc @137 Edhc Gnmo Jovw Hz1s Iaw0 He00 Idhc Lal0 Kriak Ldjw,Kdhg*2 Ldjw Kdk4 Mdhk Ndhc,Mdhc*5 Ndhc G33w Eaw8 Ddhc Edhc Gdh4 Fdh8,Gdhg*3 Fdh8 Ge04 Ffjw Gbf0 Ffk0,Gbeo*2 @103 @62 Gbeo Fg2o,Gaw0*2 Fg2o Gbeo,Ffk0*3 Gbeo @103 Fg2o Oaw4 Pg2o Oaw0 Pg2o Obeo,Pfk0*3 Obeo Pg2o,Oaw0*2 Pg2o Obeo,Pfk0*2 Obeo Pg2o,Oaw0*3 Pg2o Obeo,Pfk0*2|EET-2EEST,M3.5.0/3,M10.5.0/4",
  "Europe/Copenhagen|fsft0d0e0e0d0d0e|1-15r1bnw D3080 2bo7orw Daak Chr1k E1uqw @121 Edhc Fdhc Ea00 Fj6o E940 Fi5c E79c Fk80 E6qo Gnslc Hcyo Gdhc,Hdhc*3 Gdhc He00 Gdhc,Hdhc*5 Gdhc @102 @8 @53|CET-1CEST,M3.5.0,M10.5.0/3",
  "Europe/Gibraltar|fuep01fa010e0d0e|4-1anxr0c 1iol38c @6 @52 D22k B8tc C684 B9uo Ch40 Bbeo Cfk0 Bcg0 Ce00 Bcyo Ce00 Bdhc Ce00 Bcyo Ccg0 Be00 Ccyo Beio Ccg0 Bf1c Ccg0 Fe00 Gir3w Hdhc,Gdhc*2 He00 Gdhc,Hdhc*5 Gdhc @102 @8 @53|CET-1CEST,M3.5.0,M10.5.0/3",
  "Europe/Guernsey|fvep01010e0d0dfafafbep01|3-tiakv3 11ixx33 @6 @89 @18 @140 Jino L29f0 @64 Kbek Lfk0,Kbeo*3 Lg2o Kbeo,Lfk0*4 Kbeo Lg2o Kaw0 Lg2o Kbeo,Lfk0*5 Kbxc @40 @104|GMT0BST,M3.5.0/1,M10.5.0",
  "Europe/Helsinki Europe/Mariehamn|fwfx0v0w0v0w|1-1bss9yd Dw940 2ax3tqd Ddmo Csx6w Ddhc Cdhc Ddhc Edhg Fdhc Edhc @17 Fg2o Ebeo,Ffk0*2|EET-2EEST,M3.5.0/3,M10.5.0/4",
  "Europe/Isle_of_Man|fyep01fafbep01|2-19a1gi5 1haosq5 @6 @52 D22k @18 @140 Eino G29f0 @64 Fbek Gfk0,Fbeo*3 Gg2o Fbeo,Gfk0*4 Fbeo Gg2o Faw0 Gg2o Fbeo,Gfk0*5 Fbxc Gfk0,Fbeo*3 Gg2o,Faw0*2 Gg2o Fbeo,Gfk0*2 Fbeo Gg2o,Faw0*3 Gg2o Fbeo,Gfk0*2 Fbeo Gg2o,Faw0*2 Gg2o Fbeo,Gfk0*3 Fbeo Gg2o,Faw0*2 Gg2o Fbeo,Gfk0*2 Fbeo Gg2o,Faw0*2 Gg2o Fbeo,Gfk0*3 Fbeo Gg2o,Faw0*2 Gg2o Fbeo,Gfk0*2 Fbeo Gg2o,Faw0*3 Gg2o Fbeo,Gfk0*2|GMT0BST,M3.5.0/1,M10.5.0",
  "Europe/Jersey|fzep01010e0d0dfafafbep01|D-1hry8 Bdhd4 @6 @89 @18 @140 Jino D29f0 @64 Kbek Dfk0,Kbeo*3 Dg2o Kbeo,Dfk0*4 Kbeo Dg2o Kaw0 Dg2o Kbeo,Dfk0*5 Kbxc Dfk0,Kbeo*3 Dg2o,Kaw0*2 Dg2o Kbeo,Dfk0*2 Kbeo Dg2o,Kaw0*3 Dg2o Kbeo,Dfk0*2 Kbeo Dg2o,Kaw0*2 Dg2o Kbeo,Dfk0*3 Kbeo Dg2o,Kaw0*2 Dg2o Kbeo,Dfk0*2 Kbeo Dg2o,Kaw0*2 Dg2o Kbeo,Dfk0*3 Kbeo Dg2o,Kaw0*2 Dg2o Kbeo,Dfk0*2 Kbeo Dg2o,Kaw0*3 Dg2o Kbeo,Dfk0*2|GMT0BST,M3.5.0/1,M10.5.0",
  "Europe/Kaliningrad|fc0d0e0d0e0v0wfqfrfrfq0v0w970w|2-14212go 1c1n28o @105 Gl0 F1eo Gdrw Ibms Hqaik Idjw,Hdhg*2 Idjw Hdk4 @75 Mfk0,Lbeo*3 Mg2o,Law0*2 Mg2o Lbeo,Mfk0*2 Lbeo Mg2o,Law0*3 Mg2o Lbeo,Mfk0*2 Lbeo Mg2o Naw0 M2oyk|EET-2",
  "Europe/Kiev Europe/Kyiv Europe/Uzhgorod Europe/Zaporozhye|g0g10wfr0e0d0dfqfrfq0v0w0v0w0v|1-1ayy8bg Cxbeo 337a03g G8gd8 Eu8g Faw0 Ee00 D2fs Hs3x4 @98 Jdhc K798 Lxpk Mdhc,Ldhc*4 Me00 Nfk4 Obeo,Nfk0*2 Obeo Ng2o,Oaw0*2 Ng2o Obeo,Nfk0*2 Obeo @48 Ng2o,Oaw0*3 Ng2o Obeo,Nfk0*2|EET-2EEST,M3.5.0/3,M10.5.0/4",
  "Europe/Kirov|g2979n9m9m9nfqfrg3fr|B-11yg0 D88vo @66 @96 @20 Hg2o Iaw0 H2oyk|MSK-3",
  "Europe/Lisbon Portugal|2c0b0c0b0cg40c0e0b0e0d0b0c|0-18vsgyr 6em0zmr B3cqk Ca2s B8w0 Cgvw,Ba5g*2 Cgvw Ba84 Cgvw Ba5g Cgvw D1vs0 Eco0 D15hc Ecg0 De00 Ecyo,Deio*2 Ecg0 D15hc Ecg0 Ddhc Edhc D14yo Edhc Dcyo Ee00 Deio Ecg0 Ddhc Edhc Dcyo Ee00 Deio Eg2o D79c Egqo Ddc0 Edk0 Dbuo F33w D8ao E56s Dadc F2l8 D9uo E4o4,D9uo,F33w,D9c0*2 E4o4 Dbxc Edhc Ddho Edhc,Ddhc*4 Ee00 Ddhc,Edhc*4 Ddhc Ee00 Ddhc,Edhc*5 Ddhc Ee00 Ddhc,Edhc*3 Ddhc Hdhc C7i54 Ddhc Edhc De04 Edhc @142 Ddh8 Edhc,Ddhc*3 Ee00 Ddhc Edhc Idhg Gdhc,Idhc*4 Ge00 Idhc Gdhc Idhc Jdhc,Kdhc*3 Jdhc Ie00 Gfk0,Ibeo*3 Gg2o,Iaw0*2 Gg2o Ibeo,Gfk0*2 Ibeo Gg2o,Iaw0*3 Gg2o Ibeo,Gfk0*2 Ibeo Gg2o,Iaw0*2 Gg2o Ibeo,Gfk0*3 Ibeo Gg2o,Iaw0*2 Gg2o Ibeo,Gfk0*2 Ibeo Gg2o,Iaw0*2 Gg2o Ibeo,Gfk0*3 Ibeo Gg2o,Iaw0*2 Gg2o Ibeo,Gfk0*2 Ibeo Gg2o,Iaw0*3 Gg2o Ibeo,Gfk0*2|WET0WEST,M3.5.0/1,M10.5.0",
  "Europe/Ljubljana|g50e0e0d0d0d0e|1-18vslcs 4twhmgs @55 @1 Gg2o Fbeo,Gfk0*2|CET-1CEST,M3.5.0,M10.5.0/3",
  "Europe/Luxembourg|g60d0e0d0e0b0c0c0bg7g8g80d0e|2-y89550 168l290 Caas Bfjw Cag4 Dfk8 Ebeo G56g F76o Gg30 F9uc Gio8 Faig Ggo8 Fb6g Geis Feik Gcg8 Fcyg Ge04 Fdjw Gdes Feik Gcg4 Fdzw Gcys,Feik*2 Hcgc Ie00 Hcyo Ieio Hcg0 Idhc Hdhc Icyo Heio Idhc Hdhc Icyo He00 Ieio Hcg0 Idhc Hdhc Icyo He00 Ieio Hg2o I79c L5uo J1ut8 Kaw0 Je00 Kdhc Ccg0 Deio Ecdc Di5c Eag0 Mmww0 Ncyo Me00 Ndhc Mdhc Ndhc Me00 Ncyo Mdhc,Ndhc*3 Mdhc Ne00 Mdhc,Ndhc*5 Mdhc Ne00 Mdhc,Ndhc*5 Me00 Nfk0,Mbeo*3 @88 Mbeo,Nfk0*3 Mbeo Ng2o,Maw0*2 Ng2o Mbeo,Nfk0*2 Mbeo Ng2o,Maw0*2 Ng2o Mbeo,Nfk0*3 Mbeo Ng2o,Maw0*2 Ng2o Mbeo,Nfk0*2 Mbeo Ng2o,Maw0*3 Ng2o Mbeo,Nfk0*2|CET-1CEST,M3.5.0,M10.5.0/3",
  "Europe/Madrid|g90b0cg40c0d0e0d0e0d0e|E-1futc Bczp8 Ccw4 Bdh8 Cdk4 B3eik Cco4 B15h8 Ccg4 Bdzw Ccys Beio Ccyo Beik Ccg4 B5s7w C804 Bdh8 D22k Bbhc Crew Gbx8 F1ljw G8ys Fgyk Gcg4,Feik*3 Gcg4 F1xzw Gbes Fifp8 Gcys Fdzw Gcys Fcyk Gdhg Fdzw Gcys He08 Idhc @91 @12 @80|CET-1CEST,M3.5.0,M10.5.0/3",
  "Europe/Malta|g50d0e0e0d0d0e|2-13qyw0s 1bsbx8s C8t8 Bdhg Cdjw Bbus Cfmk Batg Cg2k Bcg4 Cdh8 Beu04 D1sg8 Eaw0 De00 Edeo Dcg0 Belc Ccag Edk8 Df1c Ebx4 Df1c Eaw8 Dg2o Ed914 C9bw Ei5g D8tc Ei5c D8tc Eio0 D8tc Ei5c D8tc Ehmo D9c0 Ei5c D9c0 Edeo Ddhc Ef40 Dayo Bg08 Cbek,Bfk4*4 Cbek Belg Ccvw Fe04 Gdhc,Fdhc*3 @1 Gg2o Fbeo,Gfk0*2|CET-1CEST,M3.5.0,M10.5.0/3",
  "Europe/Minsk|gagb0wfr0e0d0dfqfrfq0v0w97|1-1ayy7rs 2n4x6og 3379zjc G8a58 E10gg @121 D6qc Hrm58 @98 K14yo Ldhg Kdhc,Ldhc*4 Ke00 Lfk0,Kbeo*3 Lg2o,Kaw0*2 Lg2o Kbeo,Lfk0*2 @104 Kbeo Lg2o Maw0 cdzv4zj|<+03>-3",
  "Europe/Monaco|gc0a0b0c0bg40c0d0e0d0e|1-14hnyp8 69tlnln 22pzpnl @38 Ccyo De00 Ceio Dg2o E79o Fw7o Ebek Fbes Ehmw @121 Edx4 Fd1k Icdc Hmxzw Idh8 Je08 Kcyo Je00 Kdhc @91 @12 @80|CET-1CEST,M3.5.0,M10.5.0/3",
  "Europe/Moscow W-SU|gdgegfggghfqfrfq9n0wfrfq0v0wg3fqfr|1-1ayy9mh Drfk0 2ipzua Dd9c Ebh8 C7xg Ej3w 51jwk7 G3e8 H14o0 I2ik Hc5c G284 Jr1g G5sw4 H125uk Gdjw,Hdhg*2 Gdjw Hdk4 Kdhk Ldhc,Kdhc*5 Ldhc Ke00 Mdhc Ndhg K8ao L56k Kdhc,Ldhc*3 Kdhc Le00 Kfk0,Lbeo*3 Kg2o,Law0*2 Kg2o Lbeo,Kfk0*2 Lbeo Kg2o,Law0*3 Kg2o Lbeo,Kfk0*2 Lbeo Kg2o Oaw0 K2oyk|MSK-3",
  "Europe/Paris|gi0a0b0c0b0c0e0d0dg40e0d0e|1-154gb3l Ff0o0 22qx1nl @38 Ccyo De00 Ceio Dg2o E79o I87k G1sgc Haw0 Ge00 Hdhc Jano E39g Jd1k Kcdc Imxzw Kdh8 Le08 Mcyo Le00 Mdhc @28|CET-1CEST,M3.5.0,M10.5.0/3",
  "Europe/Riga|gjgkgl0wfr0e0d0dfqfrfq0v0w0v0w|1-1ayy74y Csrs8 Bbeo Celc B3s0 D58l4 47fhlky Hofw F108g Gaw0 Fe00 Gdhc Fdhc Et4 Irel4 Edjw,Idhg*2 Edjw Idk4 @75 Mdhc Ndhg Ofk0,Nbeo*2 Og2o N11uo Og2o Nbeo,Ofk0*2 Nbeo Og2o,Naw0*3 Og2o Nbeo,Ofk0*2 Nbeo Og2o,Naw0*2 Og2o Nbeo,Ofk0*3 Nbeo Og2o,Naw0*2 Og2o Nbeo,Ofk0*2 Nbeo Og2o,Naw0*2 Og2o Nbeo,Ofk0*3 Nbeo Og2o,Naw0*2 Og2o Nbeo,Ofk0*2 Nbeo Og2o,Naw0*3 Og2o Nbeo,Ofk0*2|EET-2EEST,M3.5.0/3,M10.5.0/4",
  "Europe/Rome Europe/San_Marino Europe/Vatican|gmgn0d0e0e0d0e0d|1-1hs7rn8 6e170v8 Cgz40 D8t8 Cdhg Ddjw Cbus Dfmk Catg Dg2k Ccg4 Ddh8 Ceu04 E1sg8 @121 Ecdc Celc Dcag Fdk8 Ef1c Fbx4 Ef1c Faw8 Eg2o Fd914 D9bw Fi5g E8tc Fi5c E8tc Fio0 E8tc Fi5c E8tc Fhmo E9c0,Fi5c*2 E8tc Fhmo E9c0 Fi5c,E8tc*2 Fhmo E9c0 Fi5c E9c0 Fhmo E9c0 He08 Gcyo Hdhc,Gdhc*3 @149 Hdhc,Gdhc*5 He00 Gfk0,Hbeo*3 Gg2o,Haw0*2 Gg2o Hbeo,Gfk0*2 Hbeo Gg2o,Haw0*3 Gg2o Hbeo,Gfk0*2 Hbeo Gg2o,Haw0*2 Gg2o Hbeo,Gfk0*3 Hbeo Gg2o,Haw0*2 Gg2o Hbeo,Gfk0*2 Hbeo Gg2o,Haw0*2 Gg2o Hbeo,Gfk0*3 Hbeo Gg2o,Haw0*2 Gg2o Hbeo,Gfk0*2 Hbeo Gg2o,Haw0*3 Gg2o Hbeo,Gfk0*2|CET-1CEST,M3.5.0,M10.5.0/3",
  "Europe/Samara|go979m9n9m9n9t97gp9t9m|B-11yg0 C88vo D125uk Cdjw,Ddhg*2 Cdjw Ddk4 Edhk Fdhc,Edhc*4 Gdhc Hdhg Gdhc He00 Idhc Hdhg C1k0 Fbx4 Edhc,Fdhc*3 Edhc @63 Fbeo @30 Gbeo Hg2s Eaw0 4dzv7rj|<+04>-4",
  "Europe/Sarajevo|gq0e0e0d0d0d0e|1-18vsm2s 4twhn6s @55 @1 Gg2o Fbeo,Gfk0*2|CET-1CEST,M3.5.0,M10.5.0/3",
  "Europe/Saratov|gr979n9m9m9n9t979m|B-11yg0 D88vo C125uk Ddjw,Cdhg*2 Ddjw Cdk4 @126 @96 @20 @90 E1l1g 4b0x7rj|<+04>-4",
  "Europe/Simferopol|gsgt0wfr0e0d0dfqfrfq0v0w0v0wg3fr|1-1ayy8zc 2n4x6oo 337a0qo G8jh8 Er4g @121 Dqc Hrs58 @98 Ckqo K1b6s Ldhc,Kdhc*2 H2l0 Iaw8 Jdhc Idhc Jdzs Ifkc Mbes Nfk0,Mbeo*2 @88 Mbeo Nfk0 Obek Ifjs|MSK-3",
  "Europe/Skopje|gu0e0e0d0d0d0e|1-18vsmmw 4twhnqw @55 @1 Gg2o Fbeo,Gfk0*2|CET-1CEST,M3.5.0,M10.5.0/3",
  "Europe/Sofia|gvb70w0e0d0v0w0v0v0w|1-1ayy6zg 27s708k 3p0d6uw Eaw0 De00 Edhc Ddhc Cdhg Fpjrg Cdk4 Fdx8 Cd1g Fdx8 Ccyw Fdzs Gcz0 Hdhc Gdhc @149 Fdh4 Cdh8,Fdhg*4 Cdh8 Fe04 Cfjw Ibf4 Jfk0,Ibeo*2 @42 @115|EET-2EEST,M3.5.0/3,M10.5.0/4",
  "Europe/Stockholm|gwgx0e0d0d0e|1-1bhq3cc 2ayjpvy 38jiake Caas E1bqdk Fcyo Edhc,Fdhc*3 Edhc @17 Fg2o Ebeo,Ffk0*2|CET-1CEST,M3.5.0,M10.5.0/3",
  "Europe/Tallinn|gygz0d0e0e0wfr0dfqfrfq0v0w0w0v|1-1ayy790 Esmdc 23re10 Dbeo Blbs 5ygov0 6a1zgd0 Htzw Duls Caw0 De00 Cdhc Gcqc Irg58 Gdjw,Idhg*2 Gdjw Idk4 @75 Mfk0,Lbeo*2 Nfk4 Obeo Fg2o O1tc0 Nfk0,Obeo*2 @48 Ng2o,Oaw0*3 Ng2o Obeo,Nfk0*2|EET-2EEST,M3.5.0/3,M10.5.0/4",
  "Europe/Tirane|h00e0d0e0d|1-t85vo8 2dt2gw8 B1sdk Caw0 Bw0 Cncig Bb6k Cfms Bbek Cfs4 Bbek Cg2s Bavw Cg04,Bayk*2 Cg04 Bbek Cf44 Bbek Cg2s Bbek Celg Bcak Cdk4 Ddhk Edhc,Ddhc*5 @137 Ee00 Dfk0,Ebeo*3 @146 Dg2o,Eaw0*3 Dg2o Ebeo,Dfk0*2 Ebeo Dg2o,Eaw0*2 Dg2o Ebeo,Dfk0*3 Ebeo Dg2o,Eaw0*2 @44 Dg2o Ebeo,Dfk0*2|CET-1CEST,M3.5.0,M10.5.0/3",
  "Europe/Ulyanovsk|h1979n9m9m9n9t97gpey9t9m|B-11yg0 D88vo @66 Idhc Jdhg H8ao G56k Hdhc,Gdhc*3 Hdhc @20 @90 E12dg 4bdvvrj|<+04>-4",
  "Europe/Vaduz|h20d0e0d0e|2-13g44fg 1ohmxrg Cbeo Bfk0 Cbeo Dsx44 Edhc,Ddhc*3 Ee00 Ddhc,Edhc*5 Ddhc Ee00 @39 @120|CET-1CEST,M3.5.0,M10.5.0/3",
  "Europe/Vienna|h30d0e0d0e0d0e|2-14211ox 1c1n1gx Cbc4 Delk Ebeo Dfk0 Ebeo D1600 Ebxc Deow0 E1y00 Daw0 Ee00 Ddhc Edhc Ddhc Eqo Dr6o Ed1c Ddeo Edhc Deio Ecg0 Bnofs Ccyk Fdho Gdhc,Fdhc*3 @1 Gg2o Fbeo,Gfk0*2|CET-1CEST,M3.5.0,M10.5.0/3",
  "Europe/Vilnius|h4h5h60e0wfr0e0d0dfqfrfq0v0w0d0e0w0v|1-1ayy7cs 2jb5y4s 31g224o 4e75nc D6l8 Few5g Io2g G10r4 Haw0 Ge00 Hdhc F8vo Jrjzw Fdjw,Jdhg*2 Fdjw Jdk4 Kdhk Ldhc,Kdhc*4 Mdhc Ndhg Mdhc Ne00 Mdhc,Ndhc*5 Me00 Nfk0 Mbeo Nfk0 Obes Pfk0 Obeo Qg2o R2kao Qfk0 Rbeo Qg2o,Raw0*3 Qg2o Rbeo,Qfk0*2 Rbeo Qg2o,Raw0*2 Qg2o Rbeo,Qfk0*3 Rbeo Qg2o,Raw0*2 Qg2o Rbeo,Qfk0*2 Rbeo Qg2o,Raw0*2 Qg2o Rbeo,Qfk0*3 Rbeo Qg2o,Raw0*2 Qg2o Rbeo,Qfk0*2 Rbeo Qg2o,Raw0*3 Qg2o Rbeo,Qfk0*2|EET-2EEST,M3.5.0/3,M10.5.0/4",
  "Europe/Volgograd|9r979m9n9m9nfqfrg3fr|1-q3cw84 25glrw4 D125uk Cdjw,Ddhg*2 Cdjw Ddk4 @126 @96 @20 Hg2o Iaw0 H2oyk E30dg H1ml8|MSK-3",
  "Europe/Warsaw Poland|h7h50d0e0d0e0v0w0w0d0e|1-1ayy6k0 Dqqw0 2dvyc0 Dbc4 Eelk Fbeo Efk0 Ibeo Gfmk Hbeo D2194 Cdkoc F1ruo Eaw0 Fe00 Edhc Ddmk Cfbw Ddrw Ec5g Fd1k Efhc Fbeo Eeio Fcg0 Ee00 Fcyo E5rek F8tc Edhc Fdhc Ei5c F9c0 Edhc Fdhc Ehmo,F9c0*3 Ei5c F8tc E9elc Fcyo Ee00 Fdhc Edhc Fdhc Ee00 Fcyo Edhc,Fdhc*3 Edhc Fe00 Edhc,Fdhc*3 Jdhg Kdhc,Jdhc*2 Ke00 Jdhc,Kdhc*5 Je00 @12 @80|CET-1CEST,M3.5.0,M10.5.0/3",
  "Europe/Zagreb|h80e0e0d0d0d0e|1-18vslmg 4twhmqg @55 @1 Gg2o Fbeo,Gfk0*2|CET-1CEST,M3.5.0,M10.5.0/3",
  "Factory|4j||<-00>0",
  "HST|2r||HST10",
  "Indian/Antananarivo|h908ha08|1-uj8gss 2m9lccs D6qo|EAT-3",
  "Indian/Chagos|hb9094|1-wvpc2s 21ag64us 2ly387j|<+06>-6",
  "Indian/Christmas|hc8z|1-133iwws 122m2xwb|<+07>-7",
  "Indian/Cocos|hdal|1-10j6sm4 1201qtln|<+0630>-6:30",
  "Indian/Comoro|he08|1-uj8g0g|EAT-3",
  "Indian/Kerguelen|4j90|B-f140 119ybszj|<+05>-5",
  "Indian/Mahe|hf9m|1-wvp8xo 11we99x7|<+04>-4",
  "Indian/Maldives|hghh90|1-1ayyga0 C1o4dc 214qh7xj|<+05>-5",
  "Indian/Mauritius|hi9n9m|2-wvp9bc 113jnu7c Cbzw Bj8oc Cbek 2f1binj|<+04>-4",
  "Indian/Mayotte|hj08|1-uj8gdk|EAT-3",
  "Indian/Reunion|hk9m|1-uks29s 11u3c39b|<+04>-4",
  "Kwajalein Pacific/Kwajalein|hl8y91aceu9g|1-100f8bk 2ise0fk D36w4 B2544 Ej9zs Fhyd8 5n6g2bj|<+12>-12",
  "MET|hmhnhnhm|@61 @16 Dg2o Cbeo,Dfk0*2|MET-1MEST,M3.5.0,M10.5.0/3",
  "MST|3y||MST7",
  "MST7MDT|3y3z4h4i3y|B-12w9o @110 D2n08 A3fo @5 Ahmk|MST7MDT,M3.2.0,M11.1.0",
  "NZ Pacific/Auckland|hohphqhr959696|2-1gsoz14 1usn9z4 C8t8 Dglg Cbem,Dfk2*3 Cbxa,Df1e*2 Cf1a Dbeq,Cfjy*4 Dbeq Cg2m Daw2 Cg2m Dbeq G3y7q Elo88 F8ao Ei5c F9uo Ehmo,F9c0*5 @147 Ehmo F9c0 Eg2o Fbxc,Ef1c*3 Fcg0,Eeio*3 Fcg0 Ef1c,Fbxc*2 Ef1c Fcg0,Eeio*2 Fcg0 Ef1c,Fbxc*2 Ef1c Fcg0,Eeio*4 Fe00,Ecyo*4 Fe00 Edhc Fe00,Ecyo*5 Fe00 Edhc Fe00,Ecyo*5 Feio Ecyo,Fe00*5 Edhc Fe00,Ecyo*5 Fe00 Edhc Fe00,Ecyo*2|NZST-12NZDT,M9.5.0,M4.1.0/3",
  "NZ-CHAT Pacific/Chatham|hshthuhvhv|1-1gsp0n0 4149qqm0 Clo89 D8ao Ci5c D9uo Chmo,D9c0*5 Chmo D9uo Chmo,D9c0*5 Chmo D9uo Chmo D9c0 Cg2o Dbxc,Cf1c*3 Dcg0,Ceio*3 Dcg0 Cf1c,Dbxc*2 Cf1c Dcg0,Ceio*2 Dcg0 Cf1c,Dbxc*2 Cf1c Dcg0,Ceio*4 De00,Ccyo*4 De00 Cdhc De00,Ccyo*5 De00 Cdhc De00,Ccyo*5 Deio Ccyo,De00*5 Cdhc De00,Ccyo*5 De00 Cdhc De00,Ccyo*2 25w4rj|<+1245>-12:45<+1345>,M9.5.0/2:45,M4.1.0/3:45",
  "PST8PDT|4g4f595a4g|B-12w9k @110 D2n04 A3fs @5 Ahmk|PST8PDT,M3.2.0,M11.1.0",
  "Pacific/Apia|hwhxhyhzet9i9h|1-14fxxj4 Cdwao 4kcrmt4 D19n6m Edxo Dcyo G768 F6ts Gdhc Fe00,Gcyo*5 Fe00 Gdhc Fe00,Gcyo*2 Fe00 58rka3j|<+13>-13",
  "Pacific/Bougainville|i0i191ac8y|1-1ayyvh4 27tuc88 3osc24w C2cys E1g4dg 4c1b0jj|<+11>-11",
  "Pacific/Chuuk Pacific/Truk Pacific/Yap|i2i391ac91|1-1t8j2rw C1631c 376a5nw C39c4 Dgnmk C399g 21c9ddzj|<+10>-10",
  "Pacific/Efate|i49k8y9k8y|4-u964i4 1wbu364 C79c D74o4 Edh8 Ddhg Edh8 De04 Ecyk De04 Edh8,Ddhg*4 Edh8 De04 E8t8 Dk84 E6qk 4nh8ybj|<+11>-11",
  "Pacific/Enderbury Pacific/Kanton|4jeuet9i|B-oaw0 Cvmmo Dbgl8 3mgvrrj|<+13>-13",
  "Pacific/Fakaofo|i5et9i|1-100dhmg 21lxe1ig 2dljh3j|<+13>-13",
  "Pacific/Fiji|i69j9g|2-sa2x4w 117bs00w C8tc Bio0 C8ao B7bxc C8tc Bfk0 C9uo Bh40 C6qo Bk80 C6qo Bkqo C67w Bl9g C5pc Bl9c C5pc Bls0,C56o*3 Bmao C4o0 Bpeo C22o 28vivfj|<+12>-12",
  "Pacific/Funafuti|i79g|1-100fais 11zizbib|<+12>-12",
  "Pacific/Galapagos|i84delek|1-kcr62o 3spdryo C56w4 D53w 3nglf3j|<-06>6",
  "Pacific/Gambier|i9ew|1-tvndoc 11te7env|<-09>9",
  "Pacific/Guadalcanal|ia8y|1-tvowac 11te8x9v|<+11>-11",
  "Pacific/Guam|ibicidacieif|1-1t8j1h0 C1631c 3ld6pp0 C1zes Eb79g C173w E4y84 2qdrpo 47kgac C56k Ehms C9uk Eh44 C9uk E1ppg C56k E1ow4 24ivxo 4cls2c C9bw Fhiyk|ChST-10",
  "Pacific/Honolulu Pacific/Johnston US/Hawaii|igihiiijik2r|1-12lnw3m 2jgnatm B1l0 D6jz0 E2mzu B3g2 F19ms|HST10",
  "Pacific/Kiritimati|ilimesex|1-100dk74 2153iz5s 37yirhc 3mgvujj|<+14>-14",
  "Pacific/Kosrae|inio8yac919g8y|1-1t8j4uk C1631c 376a4yk C39c8 Edgqg D36w4 C399g Fi5ug Clzek 2kdq4zj|<+11>-11",
  "Pacific/Majuro|ip8yac919g|1-100f91c 276a6hc B39c8 Ddgqg C36w4 B24lg Ejaig 4znb8vj|<+12>-12",
  "Pacific/Marquesas|iqir|1-tvncu0 11te7dtj|<-0930>9:30",
  "Pacific/Midway|isethzit|1-100dghk 2sx94dk D6qk|SST11",
  "Pacific/Nauru|iuivac9g|1-pjxiws 2ba66ys B29xm Dp4am 3urfndj|<+12>-12",
  "Pacific/Niue|iwixet|1-8zbv78 263yiok 212dxdi7|<-11>11",
  "Pacific/Norfolk|iyizivj0iv8y9k|1-100f8fs 2q3eins 3cfj8q0 E9c0 Fui80 G30de Fdhc,Gdhc*4 Fe00 Gdhc,Fdhc*5 Ge00 Fdhc,Gdhc*5 Fdhc Ge00 Fdhc,Gdhc*2 65j3bj|<+11>-11<+12>,M10.1.0,M4.1.0/3",
  "Pacific/Noumea|j19k8y9k8y|2-u9645o 1ye0ixo C6ak Bko4 C6d8 Ddcj0 E6qo 4lc6nbj|<+11>-11",
  "Pacific/Pago_Pago Pacific/Samoa US/Samoa|j2j3it|1-14fxxq0 Cdwao|SST11",
  "Pacific/Palau|j4j5ac|1-1t8izkk C1631c 21ziz383|<+09>-9",
  "Pacific/Pitcairn|j6j7ev|1-100dp8s 21esg26s 2kqho1j|<-08>8",
  "Pacific/Pohnpei Pacific/Ponape|j8j98yac918y|1-1t8j3ys C1631c 376a42s C39c8 Edgqg D36w4 C399g 21c9ddzj|<+11>-11",
  "Pacific/Port_Moresby|jai191|1-1ayytx4 27tuao8 222nok8f|<+10>-10",
  "Pacific/Rarotonga|jbjcjdesje|1-10jifqw C13oqo 4dlv68w D8ak Ehmq,D9by*2 Ehmq D9um Ehmq,D9by*5 Ehmq D9um Ehmq,D9by*3 3ogumlj|<-10>10",
  "Pacific/Saipan|jfjgacieidif|1-1t8j1no C1631c 4mpn8no Db8w4 E173w D4y84 4qdrpo 37kgac E56k Dhms E9uk Dh44 E9uk D1ppg E56k D1ow4 44ivxo 3cls2c E9bw Fhiyk|ChST-10",
  "Pacific/Tahiti|jhes|1-tvnayw 11te7byf|<-10>10",
  "Pacific/Tarawa|ji9g|1-100f9dg 11zizacz|<+12>-12",
  "Pacific/Tongatapu|jjjk9i9h9i9h|1-corjk0 27znjyo 3k8amdc Ec5c Fh40 C67w Fkqs C67w Fb3s4 C56o 2ays7jj|<+13>-13",
  "Pacific/Wake|jl9g|1-100f86s 11ziz96b|<+12>-12",
  "Pacific/Wallis|jm9g|1-100fbdk 11zizcd3|<+12>-12",
  "WET|0c0b0b0c|B5g84 Acyo Be00 Adhc Bdhc Adhc Be00 Acyo Bdhc,Adhc*3 Bdhc Ae00 Bdhc,Adhc*5 Bdhc Ae00 Bdhc,Adhc*5 Be00 Afk0,Bbeo*3 Ag2o,Baw0*2 Ag2o Bbeo,Afk0*2 Bbeo Ag2o,Baw0*3 Ag2o Bbeo,Afk0*2 Bbeo Ag2o,Baw0*2 Ag2o Bbeo,Afk0*3 Bbeo Ag2o,Baw0*2 Ag2o Bbeo,Afk0*2 Bbeo Ag2o,Baw0*2 Ag2o Bbeo,Afk0*3 Bbeo Ag2o,Baw0*2 Ag2o Bbeo,Afk0*2 Bbeo Ag2o,Baw0*3 Ag2o Bbeo,Afk0*2|WET0WEST,M3.5.0/1,M10.5.0"]

/-- The directories of zone names: a name that is one of them loads no zone. -/
def zoneDirectories : List String :=
  ["Africa", "America", "America/Argentina", "America/Indiana", "America/Kentucky",
   "America/North_Dakota", "Antarctica", "Arctic", "Asia", "Atlantic", "Australia", "Brazil",
   "Canada", "Chile", "Etc", "Europe", "Indian", "Mexico", "Pacific", "US"]

/-- The files beside the zones that hold other tables: a name that is one of them loads no zone. -/
def zoneSideFiles : List String :=
  ["iso3166.tab", "leap-seconds.list", "leapseconds", "tzdata.zi", "zone.tab", "zone1970.tab", "zonenow.tab"]

end Bindery.Time
